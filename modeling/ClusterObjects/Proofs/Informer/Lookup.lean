import ClusterObjects.Proofs.Informer.Agreement

/-!
# What is listed and what is found

A store lists its objects and finds single ones by namespace and name, where an empty namespace
stands for none. After any events each object stands under its own key, so an object without a
namespace or with a named one is found under what it states. One that states an empty namespace has
a key of its own that no lookup asks for, although it is listed.
-/

namespace ClusterObjects

/-- The namespace and the name that an object is asked for by; an absent namespace is empty. -/
def NamedObject.address (object : NamedObject) : String × String :=
  (object.namespace?.getD "", object.name)

namespace ObjectStore

theorem keyed_after (events : List CollectionEvent) : (after events).Keyed := by
  have hrun (store : ObjectStore) (h : store.Keyed) : (events.foldl step store).Keyed := by
    induction events generalizing store with
    | nil => exact h
    | cons event rest ih => exact ih _ (h.step event)
  exact hrun {} ⟨.empty, .empty⟩

section Lookups

variable {store : ObjectStore} {object : NamedObject} {namespaceName name : String}

theorem get?_eq_some_iff (h : store.Keyed) :
    store.get? namespaceName name = some object ↔
      object ∈ store.list ∧ object.namespace?.getD "" = namespaceName ∧
        object.namespace? ≠ some "" ∧ object.name = name := by
  have hkey : object.key = ⟨if namespaceName.isEmpty then none else some namespaceName, name⟩ ↔
      object.namespace?.getD "" = namespaceName ∧ object.namespace? ≠ some "" ∧
        object.name = name := by
    rw [NamedObject.key, ObjectKey.mk.injEq]
    by_cases hempty : namespaceName = ""
    · subst hempty
      cases object.namespace? with
      | none => simp
      | some scope =>
        simp only [String.isEmpty_iff, if_true, Option.getD_some]
        exact ⟨fun ⟨hnone, _⟩ ↦ (nomatch hnone), fun ⟨hscope, hnamed, _⟩ ↦
          absurd (congrArg some hscope) hnamed⟩
    · cases hscope : object.namespace? with
      | none => simp [hempty, Ne.symm hempty]
      | some scope =>
        simp only [String.isEmpty_iff, hempty, if_false, Option.some.injEq, Option.getD_some]
        refine and_congr_right fun hsame ↦ ?_
        simp [hsame, hempty]
  rw [get?, h.objects.get?_eq_some_iff, hkey]
  rfl

/-- An object is found under its own address, or it states an empty namespace and is never found. -/
theorem get?_of_mem_list (h : store.Keyed) (hmem : object ∈ store.list) :
    (object.namespace? ≠ some "" →
      store.get? object.address.1 object.address.2 = some object) ∧
    (object.namespace? = some "" → ∀ namespaceName name,
      store.get? namespaceName name ≠ some object) := by
  constructor
  · intro hscope
    exact (get?_eq_some_iff h).mpr ⟨hmem, rfl, hscope, rfl⟩
  · intro hscope namespaceName name hfound
    exact ((get?_eq_some_iff h).mp hfound).2.2.1 hscope

theorem mem_listByNamespace_iff (h : store.Keyed) (hnamed : namespaceName ≠ "") :
    object ∈ store.listByNamespace namespaceName ↔
      ∃ name, store.get? namespaceName name = some object := by
  rw [listByNamespace, List.mem_filter, beq_iff_eq]
  constructor
  · rintro ⟨hmem, hscope⟩
    refine ⟨object.name, (get?_eq_some_iff h).mpr ⟨hmem, ?_, ?_, rfl⟩⟩
    · rw [hscope, Option.getD_some]
    · rw [hscope]
      exact fun hempty ↦ hnamed (Option.some.inj hempty)
  · rintro ⟨name, hfound⟩
    obtain ⟨hmem, hscope, -, -⟩ := (get?_eq_some_iff h).mp hfound
    refine ⟨hmem, ?_⟩
    cases hstated : object.namespace? with
    | none =>
      rw [hstated] at hscope
      exact absurd hscope.symm hnamed
    | some stated =>
      rw [hstated, Option.getD_some] at hscope
      rw [hscope]

end Lookups

/-- Two ways to state a namespace are asked for alike just when one is to state none and the other
is to state an empty one. -/
theorem getD_eq_iff {first second : Option String} (h : first ≠ second) :
    first.getD "" = second.getD "" ↔
      first = none ∧ second = some "" ∨ first = some "" ∧ second = none := by
  cases first <;> cases second <;> simp_all [eq_comm]

/-- Objects with different keys share an address just when one of them has no namespace, the other
states an empty one, and their names are the same. -/
theorem address_eq_iff {first second : NamedObject} (hkeys : first.key ≠ second.key) :
    first.address = second.address ↔ first.name = second.name ∧
      (first.namespace? = none ∧ second.namespace? = some "" ∨
        first.namespace? = some "" ∧ second.namespace? = none) := by
  rw [NamedObject.address, NamedObject.address, Prod.mk.injEq, and_comm]
  refine and_congr_right fun hname ↦ getD_eq_iff fun hscope ↦ hkeys ?_
  rw [NamedObject.key, NamedObject.key, hname, hscope]

/-- After any events, what is listed is found under its own address, except for objects that state
an empty namespace, which are not found at all. Only such an object can share the address of
another one, and what is listed of a named namespace is what is found in it under some name. -/
theorem lookup_finds_listed (events : List CollectionEvent) :
    (∀ object ∈ (after events).list,
      (object.namespace? ≠ some "" →
        (after events).get? object.address.1 object.address.2 = some object) ∧
      (object.namespace? = some "" → ∀ namespaceName name,
        (after events).get? namespaceName name ≠ some object)) ∧
    ((after events).list.Pairwise fun first second ↦
      first.address = second.address ↔ first.name = second.name ∧
        (first.namespace? = none ∧ second.namespace? = some "" ∨
          first.namespace? = some "" ∧ second.namespace? = none)) ∧
    ∀ namespaceName, namespaceName ≠ "" →
      ((after events).listByNamespace namespaceName).Nodup ∧
      ∀ object, object ∈ (after events).listByNamespace namespaceName ↔
        ∃ name, (after events).get? namespaceName name = some object := by
  have hkeyed := keyed_after events
  refine ⟨fun object hmem ↦ get?_of_mem_list hkeyed hmem, ?_, fun namespaceName hnamed ↦ ⟨?_, ?_⟩⟩
  · have hkeys : (after events).list.Pairwise fun first second ↦ first.key ≠ second.key :=
      List.pairwise_map.mp hkeyed.objects.nodup_object_keys
    exact hkeys.imp address_eq_iff
  · exact hkeyed.objects.nodup_objects.filter _
  · exact fun object ↦ mem_listByNamespace_iff hkeyed hnamed

/-- A relist leaves one object in a namespace and one outside of any, and both are found. -/
theorem lookup_finds_relisted :
    let inside : NamedObject :=
      ⟨⟨none, [("name", .str "web"), ("namespace", .str "apps")], []⟩, "web", rfl⟩
    let outside : NamedObject := ⟨⟨none, [("name", .str "web")], []⟩, "web", rfl⟩
    let store := after [.apply outside, .init, .initApply inside, .initApply outside, .initDone]
    (inside ∈ store.list ∧ store.get? "apps" "web" = some inside) ∧
      (outside ∈ store.list ∧ store.get? "" "web" = some outside) ∧
      ("apps" ≠ "" ∧ ∃ name, store.get? "apps" name = some inside) := by
  intro inside outside store
  have hinside : inside ∈ store.list := by decide
  have houtside : outside ∈ store.list := by decide
  have hnamed : inside ∈ store.listByNamespace "apps" := by decide
  have h := lookup_finds_listed
    [.apply outside, .init, .initApply inside, .initApply outside, .initDone]
  exact ⟨⟨hinside, (h.1 inside hinside).1 (by decide)⟩,
    ⟨houtside, (h.1 outside houtside).1 (by decide)⟩,
    by decide, ((h.2.2 "apps" (by decide)).2 inside).mp hnamed⟩

/-- An object that states an empty namespace is listed, and not found under what it states. -/
theorem exists_listed_not_found :
    ∃ (events : List CollectionEvent) (object : NamedObject),
      object ∈ (after events).list ∧ object.namespace? = some "" ∧
        (after events).get? object.address.1 object.address.2 = none :=
  let object : NamedObject :=
    ⟨⟨none, [("name", .str "web"), ("namespace", .str "")], []⟩, "web", rfl⟩
  ⟨[.apply object], object, by decide, by decide, by decide⟩

end ObjectStore

end ClusterObjects
