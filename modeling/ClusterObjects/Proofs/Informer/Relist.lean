import ClusterObjects.Proofs.Informer.Agreement
import ClusterObjects.Proofs.Informer.Replica
import Mathlib.Data.List.Induction

/-!
# A complete list

A list that is read to its end leaves the cache with what was listed, whatever the cache held before
and however many lists were given up on the way. What differed is reported once: `Listing` says how
far the cache has come with a list that is open, and `relist_converges` what its end makes of that.
-/

namespace ClusterObjects

/-- The last of the objects with a key. -/
def NamedObject.last? (objects : List NamedObject) (key : ObjectKey) : Option NamedObject :=
  objects.reverse.find? (·.key == key)

namespace NamedObject

theorem last?_concat (objects : List NamedObject) (object : NamedObject) (key : ObjectKey) :
    last? (objects ++ [object]) key =
      if key = object.key then some object else last? objects key := by
  unfold last?
  rw [List.reverse_concat, List.find?_cons]
  by_cases hkey : key = object.key
  · simp [hkey]
  · have hother : (object.key == key) = false := beq_false_of_ne (Ne.symm hkey)
    rw [hother, if_neg hkey]

theorem last?_eq_none_iff {objects : List NamedObject} {key : ObjectKey} :
    last? objects key = none ↔ key ∉ objects.map NamedObject.key := by
  simp [last?]

end NamedObject

namespace CollectionEvent

/-- The object that an event says is there. -/
def present? : CollectionEvent → Option NamedObject
  | initApply object => some object
  | apply object => some object
  | _ => none

/-- The objects that the events have brought, one after another. -/
def presented (events : List CollectionEvent) : List NamedObject := events.filterMap present?

theorem presented_concat (events : List CollectionEvent) (event : CollectionEvent) :
    presented (events ++ [event]) = presented events ++ event.present?.toList := by
  cases hpresent : event.present? <;> simp [presented, hpresent]

/-- A list from its beginning up to some point. -/
def openList (listed : List NamedObject) : List CollectionEvent := init :: listed.map initApply

theorem openList_concat (listed : List NamedObject) (object : NamedObject) :
    openList (listed ++ [object]) = openList listed ++ [initApply object] := by
  simp [openList]

end CollectionEvent

namespace InformerCache

open CollectionEvent

theorem after_concat (events : List CollectionEvent) (event : CollectionEvent) :
    after (events ++ [event]) = ((after events).step event).2 := by
  simp [after]

theorem keyed_after (events : List CollectionEvent) : (after events).objects.Keyed := by
  induction events using List.reverseRecOn with
  | nil => exact .empty
  | append_singleton events event ih =>
    rw [after_concat]
    cases event with
    | init => exact ih
    | initApply object => exact ih.put object
    | initDone =>
      unfold step
      cases (after events).relisted with
      | none => exact ih
      | some seen => exact ih.filter _
    | apply object => exact ih.put object
    | delete object => exact ih.erase object.key

/-- A cached object is the last one that an event has brought for its key. -/
theorem last?_of_get?_after {events : List CollectionEvent} {key : ObjectKey} {object : NamedObject}
    (h : ObjectMap.get? (after events).objects key = some object) :
    NamedObject.last? (presented events) key = some object := by
  induction events using List.reverseRecOn with
  | nil => cases h
  | append_singleton events event ih =>
    have hput (latest : NamedObject)
        (h : ObjectMap.get? (ObjectMap.put (after events).objects latest) key = some object) :
        NamedObject.last? (presented events ++ [latest]) key = some object := by
      rw [ObjectMap.get?_put] at h
      rw [NamedObject.last?_concat]
      by_cases hkey : key = latest.key
      · rwa [if_pos hkey] at h ⊢
      · rw [if_neg hkey] at h ⊢
        exact ih h
    have hkept (hheld : ObjectMap.get? (after events).objects key = some object) :
        NamedObject.last? (presented events ++ []) key = some object := by
      rw [List.append_nil]
      exact ih hheld
    rw [after_concat] at h
    rw [presented_concat]
    cases event with
    | init => exact hkept h
    | initApply latest => exact hput latest h
    | initDone =>
      apply hkept
      unfold step at h
      cases hlist : (after events).relisted with
      | none =>
        rw [hlist] at h
        exact h
      | some seen =>
        rw [hlist] at h
        change ObjectMap.get? (List.filter _ _) key = _ at h
        rw [ObjectMap.get?_filter_key (fun key ↦ seen.contains key)] at h
        exact ((Option.ite_none_right_eq_some ..).1 h).2
    | apply latest => exact hput latest h
    | delete gone =>
      apply hkept
      change ObjectMap.get? (ObjectMap.erase _ _) key = _ at h
      rw [ObjectMap.get?_erase] at h
      exact ((Option.ite_none_left_eq_some ..).1 h).2

/-- A list was opened when the cache was `start`, and `listed` has been read of it since. -/
structure Listing (start : InformerCache) (listed : List NamedObject) (cache : InformerCache) :
    Prop where
  keyed : cache.objects.Keyed
  relisted : cache.relisted = some (listed.map NamedObject.key).reverse
  held (key : ObjectKey) : ObjectMap.get? cache.objects key =
    (NamedObject.last? listed key).or (ObjectMap.get? start.objects key)

namespace Listing

variable {start cache : InformerCache} {listed : List NamedObject}

theorem opened (h : start.objects.Keyed) : Listing start [] (start.step .init).2 :=
  ⟨h, rfl, fun _ ↦ rfl⟩

theorem next (h : Listing start listed cache) (object : NamedObject) :
    Listing start (listed ++ [object]) (cache.step (.initApply object)).2 where
  keyed := h.keyed.put object
  relisted := by
    change cache.relisted.map (object.key :: ·) = _
    rw [h.relisted]
    simp
  held key := by
    change ObjectMap.get? (ObjectMap.put cache.objects object) key = _
    rw [ObjectMap.get?_put, NamedObject.last?_concat, h.held]
    split <;> rfl

/-- What is told of a listed object: it is new, or it follows what the list or the cache had under
its key. -/
theorem calls_eq (h : Listing start listed cache) (object : NamedObject) :
    (cache.step (.initApply object)).1 =
      [match (NamedObject.last? listed object.key).or (ObjectMap.get? start.objects object.key) with
        | some old => .update old object
        | none => .add object] := by
  rw [← h.held]
  rfl

/-- The end of a list deletes what the cache holds and the list has not. -/
theorem swept (h : Listing start listed cache) : ∃ gone : List NamedObject,
    (cache.step .initDone).1 = gone.map .delete ∧ (gone.map NamedObject.key).Nodup ∧
      ∀ object, object ∈ gone ↔ ObjectMap.get? cache.objects object.key = some object ∧
        object.key ∉ listed.map NamedObject.key := by
  let keep : ObjectKey × NamedObject → Bool := fun entry ↦
    !(listed.map NamedObject.key).reverse.contains entry.1
  refine ⟨ObjectMap.objects (cache.objects.filter keep), ?_, ?_, ?_⟩
  · unfold step
    rw [h.relisted]
  · exact (h.keyed.filter keep).nodup_object_keys
  · intro object
    rw [mem_swept_iff h.keyed, List.mem_reverse]

/-- The end of a list leaves the cache with what was listed. -/
theorem settled (h : Listing start listed cache) (key : ObjectKey) :
    ObjectMap.get? (cache.step .initDone).2.objects key = NamedObject.last? listed key := by
  unfold step
  rw [h.relisted]
  change ObjectMap.get? (List.filter _ _) key = _
  rw [ObjectMap.get?_filter_key (fun key ↦ (listed.map NamedObject.key).reverse.contains key),
    h.held]
  have hseen : (listed.map NamedObject.key).reverse.contains key = true ↔
      key ∈ listed.map NamedObject.key := List.contains_iff_mem.trans List.mem_reverse
  by_cases hkey : key ∈ listed.map NamedObject.key
  · rw [if_pos (hseen.2 hkey)]
    cases hlast : NamedObject.last? listed key with
    | none => exact absurd hkey (NamedObject.last?_eq_none_iff.1 hlast)
    | some object => rfl
  · rw [if_neg (mt hseen.1 hkey), NamedObject.last?_eq_none_iff.2 hkey]

end Listing

theorem listing_after (before : List CollectionEvent) (listed : List NamedObject) :
    Listing (after before) listed (after (before ++ openList listed)) := by
  induction listed using List.reverseRecOn with
  | nil =>
    have hopened := Listing.opened (keyed_after before)
    rwa [← after_concat] at hopened
  | append_singleton listed object ih =>
    rw [openList_concat, ← List.append_assoc, after_concat]
    exact ih.next object

/-- Whatever has happened before, lists that were given up included: a complete list leaves the
cache with the last object listed under each key. Its end deletes once what the cache still held and
the list had not, as it was last seen. A listed object follows the one that the list had before
under its key, or else the one that was cached when the list began, and is new if there was
neither. -/
theorem relist_converges (before : List CollectionEvent) (listed : List NamedObject) :
    let opened := after (before ++ openList listed)
    let closed := after (before ++ openList listed ++ [initDone])
    (∀ key, ObjectMap.get? closed.objects key = NamedObject.last? listed key) ∧
      (∃ gone : List NamedObject, (opened.step .initDone).1 = gone.map .delete ∧
        (gone.map NamedObject.key).Nodup ∧
        (∀ key, key ∈ gone.map NamedObject.key ↔
          (ObjectMap.get? opened.objects key).isSome ∧ key ∉ listed.map NamedObject.key) ∧
        ∀ object ∈ gone,
          NamedObject.last? (presented (before ++ openList listed)) object.key = some object) ∧
      ∀ front object rest, listed = front ++ object :: rest →
        let held := ObjectMap.get? (after before).objects object.key
        let calls := ((after (before ++ openList front)).step (.initApply object)).1
        calls = [match (NamedObject.last? front object.key).or held with
          | some old => .update old object
          | none => .add object] ∧
        (object.key ∉ front.map NamedObject.key → (calls = [.add object] ↔ held = none)) := by
  intro opened closed
  have hopened : Listing (after before) listed opened := listing_after before listed
  refine ⟨?_, ?_, ?_⟩
  · intro key
    have hclosed : closed = (opened.step .initDone).2 := after_concat ..
    rw [hclosed, hopened.settled]
  · obtain ⟨gone, hcalls, hnodup, hgone⟩ := hopened.swept
    refine ⟨gone, hcalls, hnodup, ?_, ?_⟩
    · intro key
      constructor
      · intro hmem
        obtain ⟨object, hobject, rfl⟩ := List.mem_map.1 hmem
        obtain ⟨hheld, hlisted⟩ := (hgone object).1 hobject
        exact ⟨Option.isSome_of_eq_some hheld, hlisted⟩
      · rintro ⟨hheld, hlisted⟩
        obtain ⟨object, hobject⟩ := Option.isSome_iff_exists.1 hheld
        obtain ⟨-, rfl⟩ := hopened.keyed.get?_eq_some_iff.1 hobject
        exact List.mem_map_of_mem ((hgone object).2 ⟨hobject, hlisted⟩)
    · intro object hobject
      apply last?_of_get?_after
      exact ((hgone object).1 hobject).1
  · intro front object rest _ held calls
    have hcalls : calls = [match (NamedObject.last? front object.key).or held with
        | some old => .update old object
        | none => .add object] := (listing_after before front).calls_eq object
    refine ⟨hcalls, ?_⟩
    intro hfirst
    rw [hcalls, NamedObject.last?_eq_none_iff.2 hfirst, Option.none_or]
    cases held <;> simp

/-- One object is cached and gone, one stays and is listed twice, one was left by a list that was
given up, and one is new. -/
theorem relist_converges_after_abandoned_list :
    let named (name version : String) : NamedObject :=
      ⟨⟨none, [("name", .str name), ("resourceVersion", .str version)], []⟩, name, rfl⟩
    let before := [apply (named "kept" "1"), apply (named "gone" "1")] ++
      openList [named "left" "2"]
    let listed := [named "kept" "3", named "new" "3", named "kept" "4"]
    let opened := after (before ++ openList listed)
    let closed := after (before ++ openList listed ++ [initDone])
    ObjectMap.get? closed.objects ⟨none, "kept"⟩ = some (named "kept" "4") ∧
      ObjectMap.get? closed.objects ⟨none, "left"⟩ = none ∧
      (opened.step .initDone).1 = [.delete (named "left" "2"), .delete (named "gone" "1")] ∧
      ((after (before ++ openList [named "kept" "3"])).step (.initApply (named "new" "3"))).1 =
        [.add (named "new" "3")] := by
  intro named before listed opened closed
  obtain ⟨hheld, -, hcalls⟩ := relist_converges before listed
  refine ⟨hheld _, hheld _, rfl, ?_⟩
  obtain ⟨-, hfirst⟩ := hcalls [named "kept" "3"] (named "new" "3") [named "kept" "4"] rfl
  exact (hfirst (by decide)).2 rfl

end InformerCache

end ClusterObjects
