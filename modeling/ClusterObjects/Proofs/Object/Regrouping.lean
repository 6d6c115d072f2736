import ClusterObjects.Proofs.Object.Manifest
import Mathlib.Logic.Relation

/-!
# Manifests are read by their leaves

Which documents share a list counts for nothing: a run of documents and the list that holds them
have the same leaves, wherever they stand. A manifest is read as its leaves are, one after another
up to the first that is no object, so it can be grouped anew in any way.
-/

namespace ClusterObjects.Manifest

/-! ## Reading leaves -/

/-- What is read of leaves: each as an object of its own, or the fault of the first that is none. -/
def ReadAs (leaves : List Json) : Except Error (List Object) → Prop
  | .ok objects =>
    List.Forall₂ (fun document object ↦ Object.ofJson? document = some object) leaves objects
  | .error error => ∃ front fault back, leaves = front ++ fault :: back ∧
      (∀ document ∈ front, (Object.ofJson? document).isSome = true) ∧
      Object.ofJson? fault = none ∧
      error = if fault.isObject then .json else .invalidInput .documentNotObject

theorem leaf_of_some {document : Json} {object : Object}
    (h : Object.ofJson? document = some object) : leaf document = .ok object := by
  cases document with
  | obj members =>
    unfold leaf
    rw [h]
    rfl
  | null | bool _ | num _ | str _ | arr _ => cases h

theorem leaf_of_none {document : Json} (h : Object.ofJson? document = none) :
    leaf document =
      .error (if document.isObject then .json else .invalidInput .documentNotObject) := by
  unfold leaf
  rw [h]
  split <;> rfl

theorem readAs_mapM_leaf (leaves : List Json) : ReadAs leaves (leaves.mapM leaf) := by
  induction leaves with
  | nil => exact .nil
  | cons document rest ih =>
    rw [List.mapM_cons]
    cases hdocument : Object.ofJson? document with
    | none =>
      rw [leaf_of_none hdocument]
      exact ⟨[], document, rest, rfl, by simp, hdocument, rfl⟩
    | some object =>
      rw [leaf_of_some hdocument]
      cases hrest : rest.mapM leaf with
      | ok objects =>
        rw [hrest] at ih
        exact .cons hdocument ih
      | error error =>
        rw [hrest] at ih
        obtain ⟨front, fault, back, rfl, hfront, hfault⟩ := ih
        refine ⟨document :: front, fault, back, rfl, ?_, hfault⟩
        exact List.forall_mem_cons.2 ⟨by rw [hdocument]; rfl, hfront⟩

/-! ## Grouping documents anew -/

/-- The list that holds documents. -/
def gathered (documents : List Json) : Json :=
  Json.object [("kind", .str "List"), ("items", .arr documents)]

/-- A list with other items. -/
def withItems (document : Json) (items : List Json) : Json :=
  match document with
  | .obj members => .obj (Json.Members.insert "items" (.arr items) members)
  | document => document

theorem listItems?_eq_some_iff {document : Json} {items : List Json} :
    listItems? document = some items ↔ document.get? "items" = some (.arr items) ∧
      ∃ kind, document.text? "kind" = some kind ∧ kind.endsWith "List" = true := by
  unfold listItems?
  split
  · rename_i kind found hkind hitems
    simp [hkind, hitems, and_comm]
  · rename_i hnone
    refine iff_of_false nofun ?_
    rintro ⟨hitems, kind, hkind, -⟩
    exact hnone kind items hkind hitems

theorem listItems?_gathered (documents : List Json) :
    listItems? (gathered documents) = some documents := by
  have hends : "List".endsWith "List" = true := by decide +kernel
  refine listItems?_eq_some_iff.2 ⟨?_, "List", ?_, hends⟩
  · simp [gathered, Json.object, Json.get?, Json.Members.ofList, Json.Members.get?_insert]
  · simp [gathered, Json.object, Json.text?, Json.get?, Json.Members.ofList,
      Json.Members.get?_insert, Json.str?]

theorem listItems?_withItems {document : Json} {items : List Json}
    (h : listItems? document = some items) (others : List Json) :
    listItems? (withItems document others) = some others := by
  obtain ⟨hitems, kind, hkind, hends⟩ := listItems?_eq_some_iff.1 h
  cases document with
  | obj members =>
    refine listItems?_eq_some_iff.2 ⟨?_, kind, ?_, hends⟩
    · exact (Json.Members.get?_insert ..).trans (if_pos rfl)
    · have hkept := Json.Members.get?_insert "items" (.arr others) members "kind"
      rw [if_neg (by decide)] at hkept
      exact (congrArg (Option.bind · Json.str?) hkept).trans hkind
  | null | bool _ | num _ | str _ | arr _ => cases hitems

/-- A run of documents is put into a list of its own, among the documents or inside of one of their
lists. -/
inductive Gathers : (documents others : List Json) → Prop where
  | here (front run back : List Json) :
      Gathers (front ++ run ++ back) (front ++ gathered run :: back)
  | inside (front back : List Json) {document : Json} {items others : List Json}
      (hlist : listItems? document = some items) (h : Gathers items others) :
      Gathers (front ++ document :: back) (front ++ withItems document others :: back)

/-- Documents are put into lists and taken out of lists, any number of times. -/
abbrev Regroups : (documents others : List Json) → Prop := Relation.EqvGen Gathers

theorem exists_unfolds (documents : List Json) : ∃ leaves, Unfolds documents leaves := by
  obtain ⟨leaves, hleaves, -⟩ := itemsLeaves_eq documents
  exact ⟨leaves, hleaves⟩

theorem Gathers.exists_unfolds {documents others : List Json} (h : Gathers documents others) :
    ∃ leaves, Unfolds documents leaves ∧ Unfolds others leaves := by
  induction h with
  | here front run back =>
    obtain ⟨before, hbefore⟩ := Manifest.exists_unfolds front
    obtain ⟨inner, hinner⟩ := Manifest.exists_unfolds run
    obtain ⟨after, hafter⟩ := Manifest.exists_unfolds back
    refine ⟨before ++ inner ++ after, (hbefore.append hinner).append hafter, ?_⟩
    rw [List.append_assoc]
    exact hbefore.append (.list (listItems?_gathered run) hinner hafter)
  | inside front back hlist _ ih =>
    obtain ⟨before, hbefore⟩ := Manifest.exists_unfolds front
    obtain ⟨inner, hitems, hothers⟩ := ih
    obtain ⟨after, hafter⟩ := Manifest.exists_unfolds back
    refine ⟨before ++ (inner ++ after), hbefore.append (.list hlist hitems hafter), ?_⟩
    exact hbefore.append (.list (listItems?_withItems hlist _) hothers hafter)

/-- Documents that are grouped anew have the leaves that they had. -/
theorem exists_unfolds_of_regroups {documents others : List Json} (h : Regroups documents others) :
    ∃ leaves, Unfolds documents leaves ∧ Unfolds others leaves := by
  induction h with
  | rel _ _ h => exact h.exists_unfolds
  | refl documents =>
    obtain ⟨leaves, hleaves⟩ := exists_unfolds documents
    exact ⟨leaves, hleaves, hleaves⟩
  | symm _ _ _ ih =>
    obtain ⟨leaves, hfirst, hsecond⟩ := ih
    exact ⟨leaves, hsecond, hfirst⟩
  | trans _ _ _ _ _ ihfirst ihsecond =>
    obtain ⟨leaves, hfirst, hmiddle⟩ := ihfirst
    obtain ⟨others, hagain, hsecond⟩ := ihsecond
    obtain rfl := hmiddle.unique hagain
    exact ⟨leaves, hfirst, hsecond⟩

theorem itemsLeaves_of_unfolds {documents leaves : List Json} (h : Unfolds documents leaves) :
    itemsLeaves documents = leaves.mapM leaf := by
  obtain ⟨found, hfound, hread⟩ := itemsLeaves_eq documents
  rw [hread, h.unique hfound]

/-- A manifest has the leaves below its documents, each once and in their order, and is read as they
are, each by itself up to the first that is no object. Documents that are grouped anew are read the
same, and so is every manifest that holds them. -/
theorem read_by_leaves {data : ByteArray} {documents : List Json}
    (h : Yaml.documents? data = some documents) :
    (∃ leaves, (∀ found, Unfolds documents found ↔ found = leaves) ∧
        ReadAs leaves (objects data)) ∧
      ∀ others, Regroups documents others → itemsLeaves others = objects data ∧
        ∀ text, Yaml.documents? text = some others → objects text = objects data := by
  have hobjects (text : ByteArray) {others : List Json}
      (hothers : Yaml.documents? text = some others) : objects text = itemsLeaves others := by
    unfold objects
    rw [hothers]
  obtain ⟨leaves, hleaves, hread⟩ := objects_eq h
  refine ⟨⟨leaves, fun found ↦ ?_, hread ▸ readAs_mapM_leaf leaves⟩, fun others hothers ↦ ?_⟩
  · constructor
    · exact fun hfound ↦ hfound.unique hleaves
    · rintro rfl
      exact hleaves
  · obtain ⟨shared, hfirst, hsecond⟩ := exists_unfolds_of_regroups hothers
    obtain rfl := hleaves.unique hfirst
    have hsame : itemsLeaves others = objects data :=
      (itemsLeaves_of_unfolds hsecond).trans hread.symm
    exact ⟨hsame, fun text htext ↦ (hobjects text htext).trans hsame⟩

/-- Two objects, one of them in a list inside of a list, and the same two without lists. -/
theorem read_by_leaves_regrouped :
    let first : Json := .obj [("metadata", .obj [("name", .str "a")])]
    let second : Json := .obj [("metadata", .obj [("name", .str "b")])]
    let nested := ("kind: List\nitems:\n- metadata:\n    name: a\n- kind: List\n  items:\n" ++
      "  - metadata:\n      name: b\n").toUTF8
    let flat := "metadata:\n  name: a\n---\nmetadata:\n  name: b\n".toUTF8
    Yaml.documents? nested = some [gathered [first, gathered [second]]] ∧
      Yaml.documents? flat = some [first, second] ∧
      Unfolds [gathered [first, gathered [second]]] [first, second] ∧
      objects nested = .ok [⟨none, [("name", .str "a")], []⟩, ⟨none, [("name", .str "b")], []⟩] ∧
      objects flat = objects nested := by
  intro first second nested flat
  have hnested : Yaml.documents? nested = some [gathered [first, gathered [second]]] := by
    decide +kernel
  have hflat : Yaml.documents? flat = some [first, second] := by decide +kernel
  have hinner : Regroups [first, second] [first, gathered [second]] :=
    .rel _ _ (.here [first] [second] [])
  have houter : Regroups [first, gathered [second]] [gathered [first, gathered [second]]] :=
    .rel _ _ (.here [] [first, gathered [second]] [])
  obtain ⟨-, hothers⟩ := read_by_leaves hnested
  obtain ⟨-, hsame⟩ := hothers _ (.symm _ _ (.trans _ _ _ hinner houter))
  have hbelow : Unfolds [first, gathered [second]] [first, second] :=
    .leaf rfl (.list (listItems?_gathered [second]) (.singleton rfl) .nil)
  have hunfolds : Unfolds [gathered [first, gathered [second]]] ([first, second] ++ []) :=
    .list (listItems?_gathered _) hbelow .nil
  exact ⟨hnested, hflat, hunfolds, by decide +kernel, hsame flat hflat⟩

end ClusterObjects.Manifest
