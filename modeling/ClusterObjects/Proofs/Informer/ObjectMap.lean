import ClusterObjects.Informer.Cache
import ClusterObjects.Proofs.Lookup

/-!
# Maps of objects

A map of objects is `Keyed` when each key stands in it once and each object stands under its own
key. Putting, erasing and filtering keep that, and such a map is known by its lookups.
-/

namespace ClusterObjects.ObjectMap

@[simp] theorem get?_nil (key : ObjectKey) : get? [] key = none := rfl

theorem get?_cons (k : ObjectKey) (object : NamedObject) (rest : ObjectMap) (key : ObjectKey) :
    get? ((k, object) :: rest) key = if key = k then some object else get? rest key :=
  Lookup.lookup_cons key k object rest

theorem get?_filter_key (keep : ObjectKey → Bool) (map : ObjectMap) (key : ObjectKey) :
    get? (map.filter fun entry ↦ keep entry.1) key = if keep key then get? map key else none :=
  Lookup.lookup_filter_key keep map key

theorem get?_erase (map : ObjectMap) (key k : ObjectKey) :
    get? (erase map key) k = if k = key then none else get? map k := by
  unfold erase
  rw [get?_filter_key (· != key)]
  by_cases h : k = key <;> simp [h]

theorem get?_put (map : ObjectMap) (object : NamedObject) (key : ObjectKey) :
    get? (put map object) key = if key = object.key then some object else get? map key := by
  unfold put
  rw [get?_cons, get?_erase]
  by_cases h : key = object.key <;> simp [h]

/-- Each key stands in the map once, and each object stands under its own. -/
structure Keyed (map : ObjectMap) : Prop where
  nodup_keys : (map.map Prod.fst).Nodup
  own_key : ∀ entry ∈ map, entry.1 = entry.2.key

namespace Keyed

theorem empty : Keyed [] := ⟨List.nodup_nil, fun _ h ↦ nomatch h⟩

theorem filter {map : ObjectMap} (h : Keyed map) (keep : ObjectKey × NamedObject → Bool) :
    Keyed (map.filter keep) where
  nodup_keys := h.nodup_keys.sublist (List.filter_sublist.map Prod.fst)
  own_key entry hentry := h.own_key entry (List.mem_of_mem_filter hentry)

theorem erase {map : ObjectMap} (h : Keyed map) (key : ObjectKey) :
    Keyed (ObjectMap.erase map key) := h.filter _

theorem put {map : ObjectMap} (h : Keyed map) (object : NamedObject) :
    Keyed (ObjectMap.put map object) where
  nodup_keys := by
    refine List.nodup_cons.2 ⟨?_, (h.erase object.key).nodup_keys⟩
    intro hmem
    obtain ⟨entry, hentry, hkey⟩ := List.mem_map.1 hmem
    have hne := List.of_mem_filter hentry
    simp [hkey] at hne
  own_key entry hentry := by
    rcases List.mem_cons.1 hentry with rfl | hentry
    · rfl
    · exact (h.erase object.key).own_key entry hentry

variable {map : ObjectMap}

theorem get?_of_mem (h : Keyed map) {object : NamedObject} (hmem : object ∈ objects map) :
    get? map object.key = some object := by
  obtain ⟨entry, hentry, rfl⟩ := List.mem_map.1 hmem
  rw [← h.own_key entry hentry]
  exact Lookup.lookup_of_mem h.nodup_keys hentry

theorem get?_eq_some_iff (h : Keyed map) {key : ObjectKey} {object : NamedObject} :
    get? map key = some object ↔ object ∈ objects map ∧ object.key = key := by
  constructor
  · intro hget
    have hmem : (key, object) ∈ map := Lookup.mem_of_lookup hget
    exact ⟨List.mem_map.2 ⟨_, hmem, rfl⟩, (h.own_key _ hmem).symm⟩
  · rintro ⟨hmem, rfl⟩
    exact h.get?_of_mem hmem

theorem nodup_object_keys (h : Keyed map) : ((objects map).map NamedObject.key).Nodup := by
  have hown : map.map (fun entry ↦ entry.2.key) = map.map Prod.fst :=
    List.map_congr_left fun entry hentry ↦ (h.own_key entry hentry).symm
  unfold objects
  rw [List.map_map]
  exact hown ▸ h.nodup_keys

theorem nodup_objects (h : Keyed map) : (objects map).Nodup := h.nodup_object_keys.of_map

theorem perm_of_get?_eq (h : Keyed map) {other : ObjectMap} (hother : Keyed other)
    (hget : ∀ key, get? map key = get? other key) : map.Perm other :=
  Lookup.perm_of_lookup_eq h.nodup_keys hother.nodup_keys hget

end Keyed

end ClusterObjects.ObjectMap
