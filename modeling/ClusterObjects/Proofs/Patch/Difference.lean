import ClusterObjects.Proofs.Patch.Document
import ClusterObjects.Proofs.Patch.Operation

/-!
# Differences as lists of operations

A difference is followed along its recursion. What it does to an object is said by the members
after it, what it does to an array by the items that are done and those still to come: an operation
on an item finds it behind the items that are done, because those have their final number by then.
-/

namespace ClusterObjects

open Json (Members)

namespace Operation

/-- Differences to the value lead to it, wherever they are carried out. -/
def Reached (after : Json) : Prop :=
  ∀ (pointer : Pointer) (before : Json), before.WellFormed →
    ∃ result : Json, result.WellFormed ∧ result.same after = true ∧
      Leads pointer (diffAt pointer before after) before result

variable (pointer : Pointer)

/-! ## Arrays -/

theorem child?_item (front : List Json) (item : Json) (back : List Json) :
    (Json.arr (front ++ item :: back)).child? (toString front.length) = some item := by
  simp [Json.child?]

theorem withChild_item (front : List Json) (item new : Json) (back : List Json) :
    (Json.arr (front ++ item :: back)).withChild (toString front.length) new =
      .arr (front ++ new :: back) := by
  simp [Json.withChild]

theorem without?_item (front : List Json) (item : Json) (back : List Json) :
    (Json.arr (front ++ item :: back)).without? (toString front.length) =
      some (.arr (front ++ back)) := by
  simp [Json.without?, List.eraseIdx_append_of_length_le]

theorem withNew?_end (items : List Json) (new : Json) :
    (Json.arr items).withNew? (toString items.length) new = some (.arr (items ++ [new])) := by
  have hdash : items.length.repr ≠ "-" := by
    intro h
    have hindex := Pointer.index?_repr items.length
    rw [h, show Pointer.index? "-" = none from by decide] at hindex
    cases hindex
  simp [Json.withNew?, hdash]

/-- Surplus items go one after another from the same index. -/
theorem leads_removals_items (front : List Json) {surplus : List Json}
    (hsurplus : ∀ item ∈ front ++ surplus, item.WellFormed) :
    Leads pointer (surplus.map fun _ ↦ remove (pointer ++ [toString front.length]))
      (.arr (front ++ surplus)) (.arr front) := by
  induction surplus with
  | nil =>
    rw [List.append_nil]
    exact .nil pointer _
  | cons item rest ih =>
    simp only [List.forall_mem_append, List.forall_mem_cons] at hsurplus
    have hrest : ∀ other ∈ front ++ rest, other.WellFormed :=
      List.forall_mem_append.2 ⟨hsurplus.1, hsurplus.2.2⟩
    have hfirst : Leads pointer [remove (pointer ++ [toString front.length])]
        (.arr (front ++ item :: rest)) (.arr (front ++ rest)) :=
      .remove (without?_item front item rest)
    exact hfirst.append ((Json.itemsWellFormed_iff _).2 hrest) (ih hrest)

/-- The items behind `front` are led to the desired ones, which then are the same one by one. -/
theorem exists_leads_diffItems {after : List Json}
    (hafter : ∀ item ∈ after, item.WellFormed ∧ Reached item) (front : List Json)
    {before : List Json} (hbefore : ∀ item ∈ front ++ before, item.WellFormed) :
    ∃ result : List Json, (∀ item ∈ front ++ result, item.WellFormed) ∧
      result.map Json.canonical = after.map Json.canonical ∧
      Leads pointer (diffItems pointer front.length before after) (.arr (front ++ before))
        (.arr (front ++ result)) := by
  induction after generalizing front before with
  | nil =>
    have hfront := (List.forall_mem_append.1 hbefore).1
    refine ⟨[], by rwa [List.append_nil], rfl, ?_⟩
    rw [diffItems, List.append_nil]
    exact leads_removals_items pointer front hbefore
  | cons new after ih =>
    obtain ⟨⟨hnew, hreached⟩, hrest⟩ := List.forall_mem_cons.1 hafter
    have hnext (item : Json) (others : List Json) :
        front ++ item :: others = (front ++ [item]) ++ others := List.append_cons front item others
    cases before with
    | nil =>
      have hdone : ∀ item ∈ (front ++ [new]) ++ [], item.WellFormed := by
        simp only [List.append_nil, List.forall_mem_append, List.forall_mem_singleton] at hbefore ⊢
        exact ⟨hbefore, hnew⟩
      obtain ⟨result, hresult, hsame, hleads⟩ := ih hrest (front ++ [new]) hdone
      refine ⟨new :: result, by rwa [hnext], congrArg (new.canonical :: ·) hsame, ?_⟩
      have hadd : Leads pointer [add (pointer ++ [toString front.length]) new]
          (.arr front) (.arr (front ++ [new])) := .add (withNew?_end front new)
      rw [List.append_nil, hnext, diffItems]
      rw [List.length_append, List.length_singleton, List.append_nil] at hleads
      rw [List.append_nil] at hdone
      exact hadd.append ((Json.itemsWellFormed_iff _).2 hdone) hleads
    | cons old before =>
      simp only [List.forall_mem_append, List.forall_mem_cons] at hbefore
      obtain ⟨item, hitem, hsameItem, hitemLeads⟩ :=
        hreached (pointer ++ [toString front.length]) old hbefore.2.1
      have hdone : ∀ other ∈ (front ++ [item]) ++ before, other.WellFormed := by
        simp only [List.forall_mem_append, List.forall_mem_singleton]
        exact ⟨⟨hbefore.1, hitem⟩, hbefore.2.2⟩
      obtain ⟨result, hresult, hsame, hleads⟩ := ih hrest (front ++ [item]) hdone
      refine ⟨item :: result, by rwa [hnext], ?_, ?_⟩
      · rw [List.map_cons, List.map_cons, hsame, Json.same_iff.1 hsameItem]
      · have hbelow := hitemLeads.below (child?_item front old before)
        rw [withChild_item, hnext item] at hbelow
        rw [hnext item, diffItems]
        rw [List.length_append, List.length_singleton] at hleads
        exact hbelow.append ((Json.itemsWellFormed_iff _).2 hdone) hleads

/-! ## Objects -/

theorem diffMembers_cons (before rest : Members) (key : String) (new : Json) :
    diffMembers pointer before ((key, new) :: rest) =
      ((before.get? key).elim [add (pointer ++ [key]) new]
        fun old ↦ diffAt (pointer ++ [key]) old new) ++ diffMembers pointer before rest := by
  rw [diffMembers]
  cases before.get? key <;> rfl

/-- Members of an object are led to the desired ones; the others stay what they are. -/
theorem exists_leads_diffMembers {before after : Members} (hbefore : (Json.obj before).WellFormed)
    (hsorted : after.Sorted) (hafter : ∀ member ∈ after, member.2.WellFormed ∧ Reached member.2)
    {current : Members} (hcurrent : (Json.obj current).WellFormed)
    (hagree : ∀ member ∈ after, current.get? member.1 = before.get? member.1) :
    ∃ result : Members, (Json.obj result).WellFormed ∧
      (∀ key, (result.get? key).map Json.canonical =
        ((after.get? key).or (current.get? key)).map Json.canonical) ∧
      Leads pointer (diffMembers pointer before after) (.obj current) (.obj result) := by
  induction after generalizing current with
  | nil => exact ⟨current, hcurrent, fun key ↦ rfl, .nil pointer _⟩
  | cons head rest ih =>
    obtain ⟨key, new⟩ := head
    obtain ⟨⟨hnew, hreached⟩, hrest⟩ := List.forall_mem_cons.1 hafter
    obtain ⟨hhead, hagreeRest⟩ := List.forall_mem_cons.1 hagree
    obtain ⟨hfresh, hsortedRest⟩ := List.pairwise_cons.1 hsorted
    have hmember : ∃ value : Json, value.WellFormed ∧ value.same new = true ∧
        Leads pointer
          ((before.get? key).elim [add (pointer ++ [key]) new]
            fun old ↦ diffAt (pointer ++ [key]) old new)
          (.obj current) (.obj (current.insert key value)) := by
      cases hold : before.get? key with
      | none => exact ⟨new, hnew, Json.same_refl new, .add rfl⟩
      | some old =>
        obtain ⟨value, hvalue, hsame, hleads⟩ :=
          hreached (pointer ++ [key]) old (hbefore.get? hold)
        exact ⟨value, hvalue, hsame, hleads.below (hhead.trans hold)⟩
    obtain ⟨value, hvalue, hsame, hleads⟩ := hmember
    have hnext : (Json.obj (current.insert key value)).WellFormed := hcurrent.insert key hvalue
    have hkept : ∀ member ∈ rest,
        (current.insert key value).get? member.1 = before.get? member.1 := by
      intro member hmember
      rw [Members.get?_insert, if_neg (hfresh member hmember).ne', hagreeRest member hmember]
    obtain ⟨result, hresult, hmembers, hrestLeads⟩ := ih hsortedRest hrest hnext hkept
    rw [diffMembers_cons]
    refine ⟨result, hresult, fun k ↦ ?_, hleads.append hnext hrestLeads⟩
    rw [hmembers, Members.get?_insert, Members.get?_cons]
    by_cases hk : k = key
    · rw [hk, hsorted.get?_tail, if_pos rfl, if_pos rfl]
      exact congrArg some (Json.same_iff.1 hsame)
    · rw [if_neg hk, if_neg hk]

/-- Members that are there go one after another. -/
theorem exists_leads_removes {gone current : Members} (hgone : gone.Sorted)
    (hcurrent : (Json.obj current).WellFormed)
    (hthere : ∀ member ∈ gone, current.contains member.1 = true) :
    ∃ result : Members, (Json.obj result).WellFormed ∧
      (∀ key, result.get? key = if gone.contains key then none else current.get? key) ∧
      Leads pointer (gone.map fun (key, _) ↦ remove (pointer ++ [key])) (.obj current)
        (.obj result) := by
  induction gone generalizing current with
  | nil => exact ⟨current, hcurrent, fun key ↦ rfl, .nil pointer _⟩
  | cons head rest ih =>
    obtain ⟨key, old⟩ := head
    obtain ⟨hhead, hthereRest⟩ := List.forall_mem_cons.1 hthere
    obtain ⟨hfresh, hrest⟩ := List.pairwise_cons.1 hgone
    have hnext : (Json.obj (current.erase key)).WellFormed := hcurrent.erase key
    have hstill : ∀ member ∈ rest, (current.erase key).contains member.1 = true := by
      intro member hmember
      unfold Members.contains
      rw [Members.get?_erase, if_neg (hfresh member hmember).ne']
      exact hthereRest member hmember
    obtain ⟨result, hresult, hmembers, hleads⟩ := ih hrest hnext hstill
    refine ⟨result, hresult, fun k ↦ ?_, ?_⟩
    · rw [hmembers, Members.get?_erase]
      unfold Members.contains
      rw [Members.get?_cons]
      by_cases hk : k = key
      · simp [hk]
      · simp [hk]
    · have hremoved : (Json.obj current).without? key = some (.obj (current.erase key)) :=
        if_pos hhead
      exact (Leads.remove hremoved).append hnext hleads

/-- The removals take away what the desired object does not have. -/
theorem exists_leads_removals {before after : Members} (hbefore : before.Sorted)
    {current : Members} (hcurrent : (Json.obj current).WellFormed)
    (hmembers : ∀ key, (current.get? key).map Json.canonical =
      ((after.get? key).or (before.get? key)).map Json.canonical) :
    ∃ result : Members, (Json.obj result).WellFormed ∧
      (∀ key, (result.get? key).map Json.canonical = (after.get? key).map Json.canonical) ∧
      Leads pointer (removals pointer before after) (.obj current) (.obj result) := by
  let gone : Members := before.filter fun (key, _) ↦ !after.contains key
  have hsorted : gone.Sorted := hbefore.filter _
  have hgone (key : String) :
      gone.get? key = if !after.contains key then before.get? key else none :=
    Members.get?_filter_key (fun key ↦ !after.contains key) before key
  have hthere : ∀ member ∈ gone, current.contains member.1 = true := by
    rintro ⟨key, old⟩ hmember
    have hold : gone.get? key = some old := Lookup.lookup_of_mem hsorted.nodup_keys hmember
    obtain ⟨hfresh, hold⟩ := (Option.ite_none_right_eq_some ..).1 ((hgone key).symm.trans hold)
    have hkey := hmembers key
    have hnone : after.get? key = none := by simpa [Members.contains] using hfresh
    rw [hnone, hold] at hkey
    obtain ⟨value, hvalue, -⟩ := Option.map_eq_some_iff.1 hkey
    exact Option.isSome_iff_exists.2 ⟨value, hvalue⟩
  obtain ⟨result, hresult, hleft, hleads⟩ :=
    exists_leads_removes pointer hsorted hcurrent hthere
  refine ⟨result, hresult, fun key ↦ ?_, hleads⟩
  have hkey := hmembers key
  rw [hleft, Members.contains, hgone, Members.contains]
  cases hafter : after.get? key with
  | none =>
    rw [hafter, Option.none_or] at hkey
    cases hold : before.get? key with
    | none => simpa [hold] using hkey
    | some old => simp
  | some new => simpa [hafter] using hkey

/-! ## Whole values -/

theorem reached (after : Json) (hafter : after.WellFormed) : Reached after := by
  induction after using Json.partInduction with
  | step after ih =>
    intro pointer before hbefore
    have hleaf (h : diffAt pointer before after =
        if before.same after then [] else [replace pointer after]) :
        ∃ result : Json, result.WellFormed ∧ result.same after = true ∧
          Leads pointer (diffAt pointer before after) before result := by
      rw [h]
      split
      · exact ⟨before, hbefore, ‹_›, .nil pointer before⟩
      · exact ⟨after, hafter, Json.same_refl after, .replace pointer before after⟩
    cases after with
    | obj members =>
      cases before with
      | obj old =>
        have hmembers : ∀ member ∈ members, member.2.WellFormed ∧ Reached member.2 := by
          intro member hmember
          have hvalue := (Json.membersWellFormed_iff members).1 hafter.2 member hmember
          exact ⟨hvalue, ih member.2 (List.mem_map_of_mem hmember) hvalue⟩
        obtain ⟨middle, hmiddle, hkept, hfirst⟩ := exists_leads_diffMembers pointer hbefore
          hafter.sorted hmembers hbefore fun _ _ ↦ rfl
        obtain ⟨result, hresult, hsame, hsecond⟩ :=
          exists_leads_removals pointer hbefore.sorted hmiddle hkept
        refine ⟨.obj result, hresult, ?_, hfirst.append hmiddle hsecond⟩
        exact (Json.same_obj_iff hresult.sorted hafter.sorted).2 hsame
      | null | bool _ | num _ | str _ | arr _ => exact hleaf rfl
    | arr items =>
      cases before with
      | arr old =>
        have hitems : ∀ item ∈ items, item.WellFormed ∧ Reached item := by
          intro item hitem
          have hvalue := (Json.itemsWellFormed_iff items).1 hafter item hitem
          exact ⟨hvalue, ih item hitem hvalue⟩
        obtain ⟨result, hresult, hsame, hleads⟩ := exists_leads_diffItems pointer hitems []
          ((Json.itemsWellFormed_iff old).1 hbefore)
        exact ⟨.arr result, (Json.itemsWellFormed_iff result).2 hresult,
          Json.same_arr_iff.2 hsame, hleads⟩
      | null | bool _ | num _ | str _ | obj _ => exact hleaf rfl
    | null | bool _ | num _ | str _ => exact hleaf (by cases before <;> rfl)

/-! ## Empty differences -/

theorem diffMembers_eq_nil {before after : Members}
    (h : ∀ member ∈ after, ∃ old, before.get? member.1 = some old ∧
      diffAt (pointer ++ [member.1]) old member.2 = []) :
    diffMembers pointer before after = [] := by
  induction after with
  | nil => rfl
  | cons head rest ih =>
    obtain ⟨⟨old, hold, hhead⟩, hrest⟩ := List.forall_mem_cons.1 h
    rw [diffMembers_cons, hold, ih hrest]
    exact congrArg (· ++ []) hhead

theorem diffItems_eq_nil {before after : List Json} (index : Nat)
    (h : List.Forall₂ (fun old new ↦ ∀ pointer, diffAt pointer old new = []) before after) :
    diffItems pointer index before after = [] := by
  induction h generalizing index with
  | nil => rfl
  | cons hhead _ ih => rw [diffItems, hhead, ih, List.nil_append]

/-- No member goes when each is there afterwards. -/
theorem removals_eq_nil {before after : Members}
    (h : ∀ member ∈ before, after.contains member.1 = true) :
    removals pointer before after = [] := by
  refine List.map_eq_nil_iff.2 (List.filter_eq_nil_iff.2 fun member hmember ↦ ?_)
  simp [h member hmember]

/-- There is nothing to do between values that are the same. -/
theorem diffAt_of_same {before after : Json} (hbefore : before.WellFormed)
    (hafter : after.WellFormed) (hsame : before.same after = true) :
    diffAt pointer before after = [] := by
  induction after using Json.partInduction generalizing before pointer with
  | step after ih =>
    cases after with
    | obj members =>
      cases before with
      | obj old =>
        have hmembers := (Json.same_obj_iff hbefore.sorted hafter.sorted).1 hsame
        have hchanges : diffMembers pointer old members = [] := by
          refine diffMembers_eq_nil pointer fun member hmember ↦ ?_
          have hnew := Lookup.lookup_of_mem hafter.sorted.nodup_keys hmember
          have hkey := (hmembers member.1).trans (congrArg (Option.map Json.canonical) hnew)
          obtain ⟨value, hvalue, hcanonical⟩ := Option.map_eq_some_iff.1 hkey
          refine ⟨value, hvalue, ih member.2 (List.mem_map_of_mem hmember) _ ?_ ?_ ?_⟩
          · exact hbefore.get? hvalue
          · exact hafter.get? hnew
          · exact Json.same_iff.2 hcanonical
        have hremovals : removals pointer old members = [] := by
          refine removals_eq_nil pointer fun member hmember ↦ ?_
          have hold := Lookup.lookup_of_mem hbefore.sorted.nodup_keys hmember
          have hkey := (hmembers member.1).symm.trans (congrArg (Option.map Json.canonical) hold)
          obtain ⟨value, hvalue, -⟩ := Option.map_eq_some_iff.1 hkey
          simp [Members.contains, hvalue]
        rw [diffAt, hchanges, hremovals, List.append_nil]
      | null | bool _ | num _ | str _ | arr _ => exact if_pos hsame
    | arr items =>
      cases before with
      | arr old =>
        have hitems := Json.same_arr_iff.1 hsame
        have hlength : old.length = items.length := by simpa using congrArg List.length hitems
        rw [diffAt]
        refine diffItems_eq_nil pointer 0 (List.forall₂_iff_get.2 ⟨hlength, ?_⟩)
        intro index hindex hnewIndex below
        have hitem := List.getElem_of_eq hitems (by simpa using hindex)
        rw [List.getElem_map, List.getElem_map] at hitem
        refine ih _ (List.getElem_mem hnewIndex) below ?_ ?_ (Json.same_iff.2 hitem)
        · exact (Json.itemsWellFormed_iff old).1 hbefore _ (List.getElem_mem hindex)
        · exact (Json.itemsWellFormed_iff items).1 hafter _ (List.getElem_mem hnewIndex)
      | null | bool _ | num _ | str _ | obj _ => exact if_pos hsame
    | null | bool _ | num _ | str _ =>
      cases before <;> (unfold diffAt; exact if_pos hsame)

/-- A difference is empty just when there is nothing to change. -/
theorem diff_eq_nil_iff {before after : Json} (hbefore : before.WellFormed)
    (hafter : after.WellFormed) : diff before after = [] ↔ before.same after = true := by
  refine ⟨fun hnil ↦ ?_, diffAt_of_same [] hbefore hafter⟩
  obtain ⟨result, -, hsame, hleads⟩ := reached after hafter [] before hbefore
  have hrun := hleads before hbefore rfl
  change carryOutAll? before (diff before after) = _ at hrun
  rw [hnil] at hrun
  obtain rfl : before = result := Option.some.inj hrun
  exact hsame

/-! ## What is sent -/

/-- An operation is read back from what is sent of it. -/
theorem ofJson?_toJson (operation : Operation) : ofJson? operation.toJson = some operation := by
  have hstated : operation.StatedBy operation.toJson := fun _ _ h ↦ h
  exact ofJson?_eq_some_iff.2 (.inl hstated)

theorem mapM_ofJson?_toJson (operations : List Operation) :
    (operations.map toJson).mapM ofJson? = some operations := by
  induction operations with
  | nil => rfl
  | cons operation rest ih =>
    rw [List.map_cons, List.mapM_cons, ofJson?_toJson, ih]
    rfl

end Operation

namespace Patch

/-- A patch of operations is read back from the document in which it is sent. -/
theorem raw_body_json {operations : List Operation} (h : operations ≠ []) :
    raw (json operations).body .json = .ok (some (json operations)) := by
  obtain ⟨operation, rest, rfl⟩ := List.exists_cons_of_ne_nil h
  have hread := Operation.mapM_ofJson?_toJson (operation :: rest)
  unfold raw body
  rw [if_neg (by simp [isEmptyDocument])]
  dsimp only
  rw [hread]

theorem between_json (before after : Json) : between before after .json =
    .ok (if Operation.diff before after = [] then none
      else some (json (Operation.diff before after))) := by
  simp only [between]
  cases Operation.diff before after <;> rfl

/-- The operations of a difference, as they are read from the document that is sent, all succeed
when they are carried out one after another on the object, and end in the desired object. There is
nothing to send just when the object is the desired one already. -/
theorem operations_lead_to_desired {before after : Json} (hbefore : before.WellFormed)
    (hafter : after.WellFormed) :
    (between before after .json = .ok none ↔ before.same after = true) ∧
      (before.same after = false → ∃ operations : List Operation,
        between before after .json = .ok (some (json operations)) ∧
          raw (json operations).body .json = .ok (some (json operations)) ∧
          ∃ result, Operation.carryOutAll? before operations = some result ∧
            result.same after = true) := by
  have hempty := Operation.diff_eq_nil_iff hbefore hafter
  rw [between_json]
  constructor
  · by_cases hnil : Operation.diff before after = []
    · rw [if_pos hnil]
      exact iff_of_true rfl (hempty.1 hnil)
    · rw [if_neg hnil]
      exact iff_of_false nofun (mt hempty.2 hnil)
  · intro hdifferent
    have hne : Operation.diff before after ≠ [] := by
      rw [Ne, hempty, hdifferent]
      exact Bool.false_ne_true
    obtain ⟨result, -, hsame, hleads⟩ := Operation.reached after hafter [] before hbefore
    refine ⟨_, congrArg _ (if_neg hne), raw_body_json hne, result, ?_, hsame⟩
    exact hleads before hbefore rfl

/-- Keys with a slash and a tilde, a null that comes, and a list from which two items go. -/
theorem operations_lead_to_desired_escaped :
    let before : Json := .obj [("a/b", Json.strings ["x", "y", "z"]), ("c~d", .int 1)]
    let after : Json := .obj [("a/b", Json.strings ["y"]), ("e", .null), ("~1", .arr [.null])]
    let operations : List Operation := [.replace ["a/b", "0"] (.str "y"), .remove ["a/b", "1"],
      .remove ["a/b", "1"], .add ["e"] .null, .add ["~1"] (.arr [.null]), .remove ["c~d"]]
    before.WellFormed ∧ after.WellFormed ∧ before.same after = false ∧
      between before after .json = .ok (some (json operations)) ∧
      ∃ result, Operation.carryOutAll? before operations = some result ∧
        result.same after = true := by
  intro before after operations
  have hbefore : before.WellFormed := by decide +kernel
  have hafter : after.WellFormed := by decide +kernel
  have hdifferent : before.same after = false := by decide +kernel
  have hpatch : between before after .json = .ok (some (json operations)) := by decide +kernel
  obtain ⟨found, hfound, -, hcarried⟩ := (operations_lead_to_desired hbefore hafter).2 hdifferent
  obtain rfl : operations = found :=
    json.inj (Option.some.inj (Except.ok.inj (hpatch.symm.trans hfound)))
  exact ⟨hbefore, hafter, hdifferent, hpatch, hcarried⟩

end Patch

end ClusterObjects
