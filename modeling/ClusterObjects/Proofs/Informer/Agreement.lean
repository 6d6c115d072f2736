import ClusterObjects.Informer.Store
import ClusterObjects.Proofs.Informer.ObjectMap

/-!
# The cache and the store agree

The two follow a collection in different ways: the cache takes each listed object over at once and
sweeps when the list ends, the store gathers the list aside. While a list is read they may differ,
and what the buffer holds is then what the cache holds of the keys listed so far. A list that is
given up leaves objects in the cache alone, which the next complete one removes.
-/

namespace ClusterObjects

namespace CollectionEvent

/-- Whether a list is open after an event, given whether one was open before it. Listed objects and
ends of lists come only inside of a list, changes only outside; a list may be begun anew. -/
def next? : (listing : Bool) → CollectionEvent → Option Bool
  | _, init => some true
  | true, initApply _ => some true
  | true, initDone => some false
  | false, apply _ => some false
  | false, delete _ => some false
  | _, _ => none

/-- Whether a list is open after the events of a collection from its beginning on, unless they come
in an order in which they cannot come. -/
def listing? (events : List CollectionEvent) : Option Bool := events.foldlM next? false

end CollectionEvent

def InformerCache.after (events : List CollectionEvent) : InformerCache :=
  events.foldl (fun cache event ↦ (cache.step event).2) {}

namespace ObjectStore

def after (events : List CollectionEvent) : ObjectStore := events.foldl step {}

/-- Both maps of a store have each object under its own key. -/
structure Keyed (store : ObjectStore) : Prop where
  objects : store.objects.Keyed
  buffer : store.buffer.Keyed

theorem Keyed.step {store : ObjectStore} (h : store.Keyed) (event : CollectionEvent) :
    (store.step event).Keyed := by
  cases event with
  | init => exact ⟨h.objects, .empty⟩
  | initApply object => exact ⟨h.objects, h.buffer.put object⟩
  | initDone => exact ⟨h.buffer, .empty⟩
  | apply object => exact ⟨h.objects.put object, h.buffer⟩
  | delete object => exact ⟨h.objects.erase object.key, h.buffer⟩

end ObjectStore

/-- How the cache and the store are related, inside of a list and outside. -/
structure Agree (listing : Bool) (cache : InformerCache) (store : ObjectStore) : Prop where
  cache_keyed : cache.objects.Keyed
  store_keyed : store.Keyed
  synced : cache.synced = store.ready
  relisted : listing = cache.relisted.isSome
  inside (seen : List ObjectKey) (h : cache.relisted = some seen) (key : ObjectKey) :
    ObjectMap.get? store.buffer key =
      if seen.contains key then ObjectMap.get? cache.objects key else none
  outside (h : cache.relisted = none) (key : ObjectKey) :
    ObjectMap.get? cache.objects key = ObjectMap.get? store.objects key

namespace Agree

variable {listing listing' : Bool} {cache : InformerCache} {store : ObjectStore}

theorem relisted_eq_some (h : Agree true cache store) : ∃ seen, cache.relisted = some seen :=
  Option.isSome_iff_exists.1 h.relisted.symm

theorem relisted_eq_none (h : Agree false cache store) : cache.relisted = none :=
  Option.isSome_eq_false_iff.1 h.relisted.symm |> Option.isNone_iff_eq_none.1

theorem init (h : Agree listing cache store) :
    Agree true (cache.step .init).2 (store.step .init) where
  cache_keyed := h.cache_keyed
  store_keyed := h.store_keyed.step .init
  synced := h.synced
  relisted := rfl
  inside seen hseen key := by
    obtain rfl : [] = seen := Option.some.inj hseen
    rfl
  outside hnone := nomatch hnone

theorem initApply (h : Agree true cache store) (object : NamedObject) :
    Agree true (cache.step (.initApply object)).2 (store.step (.initApply object)) where
  cache_keyed := h.cache_keyed.put object
  store_keyed := h.store_keyed.step (.initApply object)
  synced := h.synced
  relisted := by
    change true = (cache.relisted.map (object.key :: ·)).isSome
    rw [Option.isSome_map, ← h.relisted]
  inside seen hseen key := by
    obtain ⟨before, hbefore, rfl⟩ := Option.map_eq_some_iff.1 hseen
    change ObjectMap.get? (ObjectMap.put store.buffer object) key =
      if (object.key :: before).contains key then
        ObjectMap.get? (ObjectMap.put cache.objects object) key
      else none
    rw [ObjectMap.get?_put, ObjectMap.get?_put, h.inside before hbefore]
    by_cases hkey : key = object.key
    · simp [hkey]
    · simp [hkey]
  outside hnone := by
    obtain ⟨seen, hseen⟩ := h.relisted_eq_some
    exact nomatch hseen.symm.trans (Option.map_eq_none_iff.1 hnone)

theorem initDone (h : Agree true cache store) :
    Agree false (cache.step .initDone).2 (store.step .initDone) := by
  obtain ⟨seen, hseen⟩ := h.relisted_eq_some
  unfold InformerCache.step
  rw [hseen]
  refine ⟨h.cache_keyed.filter _, h.store_keyed.step .initDone, rfl, rfl, nofun, fun _ key ↦ ?_⟩
  change ObjectMap.get? (cache.objects.filter fun entry ↦ seen.contains entry.1) key =
    ObjectMap.get? store.buffer key
  rw [h.inside seen hseen, ObjectMap.get?_filter_key (fun key ↦ seen.contains key)]

theorem apply (h : Agree false cache store) (object : NamedObject) :
    Agree false (cache.step (.apply object)).2 (store.step (.apply object)) where
  cache_keyed := h.cache_keyed.put object
  store_keyed := h.store_keyed.step (.apply object)
  synced := h.synced
  relisted := h.relisted
  inside seen hseen := nomatch h.relisted_eq_none.symm.trans hseen
  outside hnone key := by
    change ObjectMap.get? (ObjectMap.put cache.objects object) key =
      ObjectMap.get? (ObjectMap.put store.objects object) key
    rw [ObjectMap.get?_put, ObjectMap.get?_put, h.outside hnone]

theorem delete (h : Agree false cache store) (object : NamedObject) :
    Agree false (cache.step (.delete object)).2 (store.step (.delete object)) where
  cache_keyed := h.cache_keyed.erase object.key
  store_keyed := h.store_keyed.step (.delete object)
  synced := h.synced
  relisted := h.relisted
  inside seen hseen := nomatch h.relisted_eq_none.symm.trans hseen
  outside hnone key := by
    change ObjectMap.get? (ObjectMap.erase cache.objects object.key) key =
      ObjectMap.get? (ObjectMap.erase store.objects object.key) key
    rw [ObjectMap.get?_erase, ObjectMap.get?_erase, h.outside hnone]

theorem step (h : Agree listing cache store) {event : CollectionEvent}
    (hevent : event.next? listing = some listing') :
    Agree listing' (cache.step event).2 (store.step event) := by
  cases event with
  | init =>
    obtain rfl := Option.some.inj hevent
    exact h.init
  | initApply object =>
    cases listing with
    | true =>
      obtain rfl := Option.some.inj hevent
      exact h.initApply object
    | false => cases hevent
  | initDone =>
    cases listing with
    | true =>
      obtain rfl := Option.some.inj hevent
      exact h.initDone
    | false => cases hevent
  | apply object =>
    cases listing with
    | true => cases hevent
    | false =>
      obtain rfl := Option.some.inj hevent
      exact h.apply object
  | delete object =>
    cases listing with
    | true => cases hevent
    | false =>
      obtain rfl := Option.some.inj hevent
      exact h.delete object

theorem run (h : Agree listing cache store) {events : List CollectionEvent}
    (hevents : events.foldlM CollectionEvent.next? listing = some listing') :
    Agree listing' (events.foldl (fun cache event ↦ (cache.step event).2) cache)
      (events.foldl ObjectStore.step store) := by
  induction events generalizing listing cache store with
  | nil =>
    obtain rfl := Option.some.inj hevents
    exact h
  | cons event rest ih =>
    obtain ⟨middle, hevent, hrest⟩ := Option.bind_eq_some_iff.1 hevents
    exact ih (h.step hevent) hrest

end Agree

theorem agree_start : Agree false {} {} :=
  ⟨.empty, ⟨.empty, .empty⟩, rfl, rfl, nofun, fun _ _ ↦ rfl⟩

/-- At every point outside of a list the cache and the store hold the same objects under the same
keys, and at every point the one has read a list to its end if and only if the other is ready. -/
theorem cache_agrees_with_store {events rest : List CollectionEvent}
    (h : (CollectionEvent.listing? (events ++ rest)).isSome) :
    (CollectionEvent.listing? events = some false →
      (∀ key, ObjectMap.get? (InformerCache.after events).objects key =
        ObjectMap.get? (ObjectStore.after events).objects key) ∧
      (InformerCache.after events).objects.Perm (ObjectStore.after events).objects ∧
      (InformerCache.after events).objects.length = (ObjectStore.after events).list.length) ∧
    ((InformerCache.after events).synced = true ↔ (ObjectStore.after events).ready = true) := by
  obtain ⟨listing, hlisting⟩ : ∃ listing, CollectionEvent.listing? events = some listing := by
    obtain ⟨final, hfinal⟩ := Option.isSome_iff_exists.1 h
    unfold CollectionEvent.listing? at hfinal
    rw [List.foldlM_append] at hfinal
    obtain ⟨listing, hlisting, -⟩ := Option.bind_eq_some_iff.1 hfinal
    exact ⟨listing, hlisting⟩
  have hagree : Agree listing (InformerCache.after events) (ObjectStore.after events) :=
    agree_start.run hlisting
  refine ⟨?_, by rw [hagree.synced]⟩
  intro hclosed
  obtain rfl : listing = false := Option.some.inj (hlisting.symm.trans hclosed)
  have hsame := hagree.outside hagree.relisted_eq_none
  have hperm := hagree.cache_keyed.perm_of_get?_eq hagree.store_keyed.objects hsame
  refine ⟨hsame, hperm, ?_⟩
  rw [hperm.length_eq]
  exact (List.length_map _).symm

/-- An object of a list that was given up, gone again when the next list ends. -/
theorem cache_agrees_after_abandoned_list :
    let left : NamedObject := ⟨⟨none, [("name", .str "left")], []⟩, "left", rfl⟩
    let kept : NamedObject := ⟨⟨none, [("name", .str "kept")], []⟩, "kept", rfl⟩
    let events : List CollectionEvent := [.init, .initApply left, .init, .initApply kept, .initDone]
    let rest : List CollectionEvent := [.delete kept]
    (CollectionEvent.listing? (events ++ rest)).isSome ∧
      (InformerCache.after events).objects.Perm (ObjectStore.after events).objects ∧
      ((InformerCache.after events).synced = true ↔ (ObjectStore.after events).ready = true) := by
  intro left kept events rest
  have h := @cache_agrees_with_store events rest rfl
  exact ⟨rfl, (h.1 rfl).2.1, h.2⟩

end ClusterObjects
