import ClusterObjects.Proofs.Informer.ObjectMap
import Mathlib.Logic.Function.Basic

/-!
# Followers of an informer

A follower keeps its own map of objects and changes it by what it is told and nothing else. It holds
after every step what the cache holds, whatever the events are and in whatever order they come. The
calls of one step may come in any order, since a cache goes through its objects in none.
-/

namespace ClusterObjects

/-- The objects that a follower holds. -/
abbrev Replica := ObjectKey → Option NamedObject

namespace CacheCall

/-- What a follower does when it is told. -/
def carryOut (replica : Replica) : CacheCall → Replica
  | add object => Function.update replica object.key (some object)
  | update _ new => Function.update replica new.key (some new)
  | delete object => Function.update replica object.key none

/-- Whether a call fits what the follower holds. -/
def Fits (replica : Replica) : CacheCall → Prop
  | add object => replica object.key = none
  | update old new => replica new.key = some old ∧ old.key = new.key
  | delete _ => True

end CacheCall

namespace Replica

/-- The replica after some calls. -/
def receive (replica : Replica) (calls : List CacheCall) : Replica :=
  calls.foldl CacheCall.carryOut replica

/-- Whether each call fits when it comes. -/
def Expects (replica : Replica) : List CacheCall → Prop
  | [] => True
  | call :: rest => call.Fits replica ∧ Expects (call.carryOut replica) rest

theorem receive_cons (replica : Replica) (call : CacheCall) (rest : List CacheCall) :
    replica.receive (call :: rest) = receive (call.carryOut replica) rest := rfl

theorem expects_singleton {replica : Replica} {call : CacheCall} :
    replica.Expects [call] ↔ call.Fits replica :=
  and_iff_left trivial

theorem expects_of_deletes (replica : Replica) {calls : List CacheCall}
    (h : ∀ call ∈ calls, ∃ object, call = .delete object) : replica.Expects calls := by
  induction calls generalizing replica with
  | nil => trivial
  | cons call rest ih =>
    obtain ⟨object, rfl⟩ := h call List.mem_cons_self
    exact ⟨trivial, ih _ fun call hcall ↦ h call (List.mem_cons_of_mem _ hcall)⟩

/-- Deletions leave the objects with other keys alone. -/
theorem receive_deletes_of_ne (replica : Replica) {calls : List CacheCall}
    (h : ∀ call ∈ calls, ∃ object, call = .delete object) {key : ObjectKey}
    (hne : ∀ object, CacheCall.delete object ∈ calls → object.key ≠ key) :
    replica.receive calls key = replica key := by
  induction calls generalizing replica with
  | nil => rfl
  | cons call rest ih =>
    obtain ⟨object, rfl⟩ := h call List.mem_cons_self
    rw [receive_cons, ih _ (fun call hcall ↦ h call (List.mem_cons_of_mem _ hcall))
      fun object hobject ↦ hne object (List.mem_cons_of_mem _ hobject)]
    exact Function.update_of_ne (hne object List.mem_cons_self).symm ..

theorem receive_deletes_of_eq_none {replica : Replica} {calls : List CacheCall}
    (h : ∀ call ∈ calls, ∃ object, call = .delete object) {key : ObjectKey}
    (hnone : replica key = none) : replica.receive calls key = none := by
  induction calls generalizing replica with
  | nil => exact hnone
  | cons call rest ih =>
    obtain ⟨object, rfl⟩ := h call List.mem_cons_self
    refine ih (fun call hcall ↦ h call (List.mem_cons_of_mem _ hcall)) ?_
    by_cases hkey : key = object.key
    · rw [hkey]
      exact Function.update_self ..
    · rw [← hnone]
      exact Function.update_of_ne hkey ..

/-- Deletions remove every object whose key one of them has, in whatever order they come. -/
theorem receive_deletes_of_mem (replica : Replica) {calls : List CacheCall}
    (h : ∀ call ∈ calls, ∃ object, call = .delete object) {object : NamedObject}
    (hmem : CacheCall.delete object ∈ calls) : replica.receive calls object.key = none := by
  induction calls generalizing replica with
  | nil => cases hmem
  | cons call rest ih =>
    have hrest : ∀ call ∈ rest, ∃ object, call = CacheCall.delete object :=
      fun call hcall ↦ h call (List.mem_cons_of_mem _ hcall)
    rw [receive_cons]
    rcases List.mem_cons.1 hmem with heq | hmem
    · subst heq
      exact receive_deletes_of_eq_none hrest (Function.update_self ..)
    · exact ih _ hrest hmem

/-- Updates of held objects to themselves fit and change nothing. -/
theorem receive_refreshes {replica : Replica} {calls : List CacheCall}
    (h : ∀ call ∈ calls, ∃ object, call = .update object object ∧
      replica object.key = some object) :
    replica.Expects calls ∧ replica.receive calls = replica := by
  induction calls with
  | nil => exact ⟨trivial, rfl⟩
  | cons call rest ih =>
    obtain ⟨object, rfl, hheld⟩ := h call List.mem_cons_self
    obtain ⟨hexpects, hreceive⟩ := ih fun call hcall ↦ h call (List.mem_cons_of_mem _ hcall)
    have hsame : (CacheCall.update object object).carryOut replica = replica := by
      change Function.update replica object.key (some object) = replica
      rw [← hheld, Function.update_eq_self]
    refine ⟨⟨⟨hheld, rfl⟩, ?_⟩, ?_⟩
    · rwa [hsame]
    · rwa [receive_cons, hsame]

end Replica

/-- What happens to a cache: an event comes in, or it is time to report everything. -/
inductive CacheStep where
  | event (event : CollectionEvent)
  | resync

namespace InformerCache

/-- The calls of a step, and the cache after it. -/
def take (cache : InformerCache) : CacheStep → List CacheCall × InformerCache
  | .event event => cache.step event
  | .resync => (cache.resync, cache)

/-- The deletions at the end of a list. -/
theorem mem_swept_iff {cache : InformerCache} (h : cache.objects.Keyed) (seen : List ObjectKey)
    {object : NamedObject} :
    object ∈ ObjectMap.objects (cache.objects.filter fun entry ↦ !seen.contains entry.1) ↔
      ObjectMap.get? cache.objects object.key = some object ∧ object.key ∉ seen := by
  have hfilter := h.filter fun entry ↦ !seen.contains entry.1
  have hkey : ObjectMap.get? _ object.key = some object ↔ object ∈ ObjectMap.objects _ ∧ _ :=
    hfilter.get?_eq_some_iff
  rw [ObjectMap.get?_filter_key (fun key ↦ !seen.contains key)] at hkey
  simp only [and_true] at hkey
  rw [← hkey]
  by_cases hseen : object.key ∈ seen <;> simp [hseen]

end InformerCache

/-- A replica holds what the cache holds, each object under its own key. -/
structure Replica.Tracks (replica : Replica) (cache : InformerCache) : Prop where
  keyed : cache.objects.Keyed
  held (key : ObjectKey) : replica key = ObjectMap.get? cache.objects key

namespace Replica.Tracks

variable {replica : Replica} {cache : InformerCache} {calls : List CacheCall}

theorem put (h : replica.Tracks cache) (object : NamedObject)
    (hcalls : calls.Perm (cache.put object).1) :
    replica.Expects calls ∧ (replica.receive calls).Tracks (cache.put object).2 := by
  have hheld := h.held object.key
  have htracks : Tracks (Function.update replica object.key (some object))
      (cache.put object).2 := by
    refine ⟨h.keyed.put object, fun key ↦ ?_⟩
    change _ = ObjectMap.get? (ObjectMap.put cache.objects object) key
    rw [ObjectMap.get?_put]
    by_cases hkey : key = object.key
    · rw [hkey, if_pos rfl, Function.update_self]
    · rw [if_neg hkey, Function.update_of_ne hkey, h.held]
  unfold InformerCache.put at hcalls
  cases hold : ObjectMap.get? cache.objects object.key with
  | none =>
    rw [hold] at hheld hcalls
    obtain rfl : calls = [.add object] := List.perm_singleton.1 hcalls
    exact ⟨expects_singleton.2 hheld, htracks⟩
  | some old =>
    rw [hold] at hheld hcalls
    obtain rfl : calls = [.update old object] := List.perm_singleton.1 hcalls
    exact ⟨expects_singleton.2 ⟨hheld, (h.keyed.get?_eq_some_iff.1 hold).2⟩, htracks⟩

/-- The end of a list deletes exactly what the list did not have. -/
theorem sweep (h : replica.Tracks cache) (seen : List ObjectKey)
    (hcalls : calls.Perm ((ObjectMap.objects
      (cache.objects.filter fun entry ↦ !seen.contains entry.1)).map .delete)) (key : ObjectKey) :
    replica.receive calls key =
      ObjectMap.get? (cache.objects.filter fun entry ↦ seen.contains entry.1) key := by
  have hdelete (call : CacheCall) (hcall : call ∈ calls) : ∃ object, call = .delete object := by
    obtain ⟨object, -, rfl⟩ := List.mem_map.1 (hcalls.mem_iff.1 hcall)
    exact ⟨object, rfl⟩
  have hswept (object : NamedObject) : CacheCall.delete object ∈ calls ↔
      ObjectMap.get? cache.objects object.key = some object ∧ object.key ∉ seen := by
    rw [hcalls.mem_iff, ← InformerCache.mem_swept_iff h.keyed seen, List.mem_map]
    simp
  rw [ObjectMap.get?_filter_key (fun key ↦ seen.contains key)]
  by_cases hseen : key ∈ seen
  · rw [if_pos (List.contains_iff_mem.2 hseen), ← h.held]
    refine receive_deletes_of_ne replica hdelete fun object hobject ↦ ?_
    rintro rfl
    exact ((hswept object).1 hobject).2 hseen
  · rw [if_neg fun h ↦ hseen (List.contains_iff_mem.1 h)]
    cases hold : ObjectMap.get? cache.objects key with
    | none => exact receive_deletes_of_eq_none hdelete ((h.held key).trans hold)
    | some object =>
      obtain ⟨-, rfl⟩ := h.keyed.get?_eq_some_iff.1 hold
      exact receive_deletes_of_mem replica hdelete ((hswept object).2 ⟨hold, hseen⟩)

theorem event (h : replica.Tracks cache) (event : CollectionEvent)
    (hcalls : calls.Perm (cache.step event).1) :
    replica.Expects calls ∧ (replica.receive calls).Tracks (cache.step event).2 := by
  cases event with
  | init =>
    obtain rfl := List.perm_nil.1 hcalls
    exact ⟨trivial, h.keyed, h.held⟩
  | initApply object =>
    have hopen : replica.Tracks { cache with relisted := cache.relisted.map (object.key :: ·) } :=
      ⟨h.keyed, h.held⟩
    exact hopen.put object hcalls
  | initDone =>
    unfold InformerCache.step at hcalls ⊢
    cases hlist : cache.relisted with
    | none =>
      rw [hlist] at hcalls
      obtain rfl := List.perm_nil.1 hcalls
      exact ⟨trivial, h.keyed, h.held⟩
    | some seen =>
      rw [hlist] at hcalls
      refine ⟨expects_of_deletes replica fun call hcall ↦ ?_, h.keyed.filter _,
        h.sweep seen hcalls⟩
      obtain ⟨object, -, rfl⟩ := List.mem_map.1 (hcalls.mem_iff.1 hcall)
      exact ⟨object, rfl⟩
  | apply object => exact h.put object hcalls
  | delete object =>
    obtain rfl : calls = [.delete object] := List.perm_singleton.1 hcalls
    refine ⟨expects_singleton.2 trivial, h.keyed.erase object.key, fun key ↦ ?_⟩
    change Function.update replica object.key none key = ObjectMap.get? (ObjectMap.erase ..) key
    rw [ObjectMap.get?_erase]
    by_cases hkey : key = object.key
    · rw [hkey, if_pos rfl, Function.update_self]
    · rw [if_neg hkey, Function.update_of_ne hkey, h.held]

theorem mem_resync_iff (h : replica.Tracks cache) (call : CacheCall) :
    call ∈ cache.resync ↔
      ∃ object, call = .update object object ∧ replica object.key = some object := by
  unfold InformerCache.resync
  rw [List.mem_map]
  constructor
  · rintro ⟨object, hmem, rfl⟩
    exact ⟨object, rfl, (h.held _).trans (h.keyed.get?_of_mem hmem)⟩
  · rintro ⟨object, rfl, hheld⟩
    rw [h.held] at hheld
    exact ⟨object, (h.keyed.get?_eq_some_iff.1 hheld).1, rfl⟩

theorem nodup_resync (h : replica.Tracks cache) : cache.resync.Nodup := by
  unfold InformerCache.resync
  refine h.keyed.nodup_objects.map fun first second heq ↦ ?_
  cases heq
  rfl

/-- One step of the cache: its calls fit one after another, and the replica keeps track. -/
theorem take (h : replica.Tracks cache) (step : CacheStep)
    (hcalls : calls.Perm (cache.take step).1) :
    replica.Expects calls ∧ (replica.receive calls).Tracks (cache.take step).2 := by
  cases step with
  | event event => exact h.event event hcalls
  | resync =>
    obtain ⟨hexpects, hreceive⟩ := receive_refreshes fun call hcall ↦
      (h.mem_resync_iff call).1 (hcalls.mem_iff.1 hcall)
    refine ⟨hexpects, ?_⟩
    rwa [hreceive]

end Replica.Tracks

/-- A follower from the beginning: the steps so far, the cache and what the follower holds. -/
inductive Replica.Follows : List CacheStep → InformerCache → Replica → Prop where
  | start : Follows [] {} fun _ ↦ none
  | next {steps : List CacheStep} {cache : InformerCache} {replica : Replica}
      (before : Follows steps cache replica) (step : CacheStep) (calls : List CacheCall)
      (order : calls.Perm (cache.take step).1) :
      Follows (steps ++ [step]) (cache.take step).2 (replica.receive calls)

namespace Replica.Follows

theorem tracks {steps : List CacheStep} {cache : InformerCache} {replica : Replica}
    (h : Follows steps cache replica) : replica.Tracks cache := by
  induction h with
  | start => exact ⟨.empty, fun _ ↦ rfl⟩
  | next _ step calls order ih => exact (ih.take step order).2

/-- A follower holds exactly the cached objects; whatever comes next fits what it holds; and a
resync reports every object once, as unchanged. -/
theorem faithful {steps : List CacheStep} {cache : InformerCache} {replica : Replica}
    (h : Follows steps cache replica) :
    (∀ key object, replica key = some object ↔
        object ∈ ObjectMap.objects cache.objects ∧ object.key = key) ∧
      (∀ step calls, calls.Perm (cache.take step).1 → replica.Expects calls) ∧
      cache.resync.Nodup ∧ ∀ call, call ∈ cache.resync ↔
        ∃ object ∈ ObjectMap.objects cache.objects, call = .update object object := by
  have htracks := h.tracks
  refine ⟨?_, ?_, htracks.nodup_resync, ?_⟩
  · intro key object
    rw [htracks.held]
    exact htracks.keyed.get?_eq_some_iff
  · intro step calls hcalls
    exact (htracks.take step hcalls).1
  · intro call
    unfold InformerCache.resync
    rw [List.mem_map]
    exact ⟨fun ⟨object, hmem, hcall⟩ ↦ ⟨object, hmem, hcall.symm⟩,
      fun ⟨object, hmem, hcall⟩ ↦ ⟨object, hmem, hcall.symm⟩⟩

/-- A list without the object that was there: the follower ends with nothing. -/
theorem faithful_after_sweep :
    let object : NamedObject :=
      ⟨⟨none, [("name", .str "a"), ("namespace", .str "apps")], []⟩, "a", rfl⟩
    let calls : List CacheCall := [.add object, .delete object]
    let replica : Replica := receive (fun _ ↦ none) calls
    Follows [.event (.apply object), .event .init, .event .initDone] { synced := true } replica ∧
      ∀ key, replica key = none := by
  intro object calls replica
  have hfollows : Follows [.event (.apply object), .event .init, .event .initDone]
      { synced := true } replica :=
    ((Follows.start.next (.event (.apply object)) [.add object] (.refl _)).next
      (.event .init) [] (.refl _)).next (.event .initDone) [.delete object] (.refl _)
  refine ⟨hfollows, fun key ↦ ?_⟩
  obtain ⟨hheld, -⟩ := hfollows.faithful
  cases hkey : replica key with
  | none => rfl
  | some object => cases ((hheld key object).1 hkey).1

end Replica.Follows

end ClusterObjects
