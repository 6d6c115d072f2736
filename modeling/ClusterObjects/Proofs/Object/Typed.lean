import ClusterObjects.Object.Input
import ClusterObjects.Proofs.Schema.Decode

/-!
# Objects of a known kind

An object of a known kind is one that the kind's schema has read from some value. It states its
kind, and its plain members, read as an object of any kind, are the same object again.
-/

namespace ClusterObjects

open Json (Members)

namespace Object

/-- The object is what the schema of a kind reads of some value. -/
def IsOf (kind : Kind) (object : Object) : Prop :=
  ∃ value, ofTypedJson? kind value = some object

variable {kind : Kind} {object : Object}

/-- The members that no schema of a kind lists among its fields. -/
def headKeys : List String := ["apiVersion", "kind", "metadata"]

theorem headKeys_notMem_fields (kind : Kind) : ∀ key ∈ headKeys, key ∉ kind.fields.map Prod.fst := by
  cases kind <;> decide

theorem namesApart_objectMeta : Schema.objectMeta.namesApart = true := by decide +kernel

/-- The parts of an object of a kind: the schemas of the metadata and of the kind have read them. -/
structure Parts (kind : Kind) (object : Object) : Prop where
  types : object.types = some kind.typeMeta
  metadata : ∃ value, Schema.objectMeta.decode? value = some (.obj object.metadata)
  content : ∃ members entries, Schema.decodeFields? kind.fields members = some entries ∧
    object.content = Members.ofList entries

theorem IsOf.parts (h : object.IsOf kind) : Parts kind object := by
  obtain ⟨value, h⟩ := h
  cases value with
  | obj members =>
    have hparts (metadata : Members)
        (hmetadata : ∃ value, Schema.objectMeta.decode? value = some (.obj metadata))
        (hrest : (Schema.decodeFields? kind.fields members).bind (fun content ↦
          some (Object.mk (some kind.typeMeta) metadata (Members.ofList content))) = some object) :
        Parts kind object := by
      obtain ⟨entries, hentries, heq⟩ := Option.bind_eq_some_iff.1 hrest
      obtain rfl := Option.some.inj heq
      exact ⟨rfl, hmetadata, members, entries, hentries, rfl⟩
    unfold ofTypedJson? at h
    obtain ⟨-, h⟩ := (Option.ite_none_left_eq_some ..).1 h
    dsimp only at h
    split at h
    · exact hparts [] ⟨.obj [], rfl⟩ h
    · exact hparts [] ⟨.obj [], rfl⟩ h
    · obtain ⟨metadata, hmetadata, h⟩ := Option.bind_eq_some_iff.1 h
      cases metadata with
      | obj metadata => exact hparts metadata ⟨_, hmetadata⟩ h
      | null | bool | num | str | arr => cases h
  | null | bool | num | str | arr => cases h

namespace Parts

variable (h : Parts kind object)
include h

/-- The content of an object of a kind has no member that belongs to its head. -/
theorem get?_content {key : String} (hkey : key ∈ headKeys) : object.content.get? key = none := by
  obtain ⟨members, entries, hentries, heq⟩ := h.content
  cases hfound : object.content.get? key with
  | none => rfl
  | some value =>
    have hmem : (key, value) ∈ entries :=
      Members.mem_ofList (heq ▸ Members.mem_of_get? hfound)
    exact absurd (Schema.mem_names_of_decodeFields? hentries hmem)
      (headKeys_notMem_fields kind key hkey)

theorem sorted_content : Members.Sorted object.content := by
  obtain ⟨members, entries, hentries, heq⟩ := h.content
  exact heq ▸ Members.sorted_ofList entries

theorem decode?_metadata :
    Schema.objectMeta.decode? (.obj object.metadata) = some (.obj object.metadata) := by
  obtain ⟨value, hvalue⟩ := h.metadata
  exact Schema.decode?_again _ namesApart_objectMeta hvalue

theorem toMembers_eq : object.toMembers =
    Members.insert "kind" (.str kind.name) (Members.insert "apiVersion" (.str kind.apiVersion)
      (object.content.insert "metadata" (.obj object.metadata))) := by
  have hversion : (object.content.insert "metadata" (.obj object.metadata)).get? "apiVersion" =
      none := by
    rw [Members.get?_insert, if_neg (by decide), h.get?_content (by decide)]
  have hkind : (Members.insert "apiVersion" (.str kind.typeMeta.apiVersion)
      (object.content.insert "metadata" (.obj object.metadata))).get? "kind" = none := by
    rw [Members.get?_insert, if_neg (by decide), Members.get?_insert, if_neg (by decide),
      h.get?_content (by decide)]
  unfold toMembers
  rw [h.types]
  dsimp only
  rw [Members.insertNew_of_get?_eq_none hversion, Members.insertNew_of_get?_eq_none hkind]
  rfl

theorem get?_toMembers (key : String) :
    object.toMembers.get? key =
      if key = "kind" then some (.str kind.name)
      else if key = "apiVersion" then some (.str kind.apiVersion)
      else if key = "metadata" then some (.obj object.metadata) else object.content.get? key := by
  rw [h.toMembers_eq, Members.get?_insert, Members.get?_insert, Members.get?_insert]

/-- An object of a kind states that kind. -/
theorem gvk_eq : object.gvk = .ok kind.gvk := by
  unfold gvk
  rw [h.types]
  cases kind <;> decide +kernel

/-- The plain members of an object of a kind are read as the same object by readers that know no
kinds. -/
theorem ofJson?_toJson : ofJson? object.toJson = some object := by
  have hmetadata : object.toMembers.get? "metadata" = some (.obj object.metadata) := by
    rw [h.get?_toMembers]
    rfl
  have hsorted : Members.Sorted object.toMembers := by
    rw [h.toMembers_eq]
    exact ((h.sorted_content.insert _ _).insert _ _).insert _ _
  have hcontent : Members.erase (Members.erase (Members.erase object.toMembers "metadata")
      "apiVersion") "kind" = object.content := by
    apply Members.Sorted.ext (((hsorted.erase _).erase _).erase _) h.sorted_content
    intro key
    by_cases hkey : key ∈ headKeys
    · rw [h.get?_content hkey]
      simp only [headKeys, List.mem_cons, List.not_mem_nil, or_false] at hkey
      rcases hkey with rfl | rfl | rfl <;> simp [Members.get?_erase]
    · simp only [headKeys, List.mem_cons, List.not_mem_nil, or_false, not_or] at hkey
      obtain ⟨hversion, hkind, hmetadata⟩ := hkey
      simp [Members.get?_erase, h.get?_toMembers, hversion, hkind, hmetadata]
  have htypes : takeTypes (Members.erase object.toMembers "metadata") =
      (object.types, object.content) := by
    have hversion : (Members.erase object.toMembers "metadata").get? "apiVersion" =
        some (.str kind.apiVersion) := by
      simp [Members.get?_erase, h.get?_toMembers]
    have hkind : (Members.erase object.toMembers "metadata").get? "kind" =
        some (.str kind.name) := by
      simp [Members.get?_erase, h.get?_toMembers]
    unfold takeTypes
    rw [hversion, hkind]
    dsimp only
    rw [hcontent, h.types]
    rfl
  unfold toJson ofJson?
  dsimp only
  rw [hmetadata]
  dsimp only
  rw [h.decode?_metadata, Option.bind_eq_bind, Option.bind_some]
  dsimp only
  rw [htypes]
  rfl

end Parts

end Object

/-- The plain members of an object of a kind stand for the object, whatever its kind. -/
theorem Object.IsOf.untyped_map {kind : Kind} {object : Object} (h : object.IsOf kind) :
    Input.untyped (.map object.toMembers) = .ok (some object) := by
  have hread : Object.ofJson? (.obj object.toMembers) = some object := h.parts.ofJson?_toJson
  have hvalue : Input.untypedValue (.obj object.toMembers) = .ok object := by
    unfold Input.untypedValue
    rw [hread]
    rfl
  change (Input.untypedValue (.obj object.toMembers) >>= fun read ↦ .ok (some read)) = _
  rw [hvalue]
  rfl

end ClusterObjects
