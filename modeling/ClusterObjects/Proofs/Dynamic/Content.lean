import ClusterObjects.Proofs.Dynamic.Patch
import ClusterObjects.Proofs.Dynamic.Write

/-!
# What is sent of a document

An object of any kind is read from the members of a document: the type is taken out, the metadata is
read by its schema, and the rest is kept as it is. Only an object that states its whole type has a
place to be written to. Such an object is written with the members of the document, all but the
metadata unchanged; whatever is read in another way is refused before anything is written.
-/

namespace ClusterObjects

open Json (Members)

namespace Object

variable {members : Members} {object : Object} {types : TypeMeta}

/-- What the metadata of a written object is. -/
def sentMetadata (metadata : Members) : Members :=
  metadata.filter fun member ↦ !serverFields.contains member.1

theorem takeTypes_of_statedType? (h : statedType? members = some types) :
    takeTypes members = (some types, (members.erase "apiVersion").erase "kind") := by
  obtain ⟨hversion, hkind⟩ := get?_of_statedType? h
  unfold takeTypes
  rw [hversion, hkind]

/-- An object that is read with its type shows the members that it was read from, but for the
metadata. -/
theorem get?_toMembers_of_ofJson? (h : ofJson? (.obj members) = some object)
    (htypes : object.types = some types) (key : String) :
    object.toMembers.get? key =
      if key = "metadata" then some (.obj object.metadata) else members.get? key := by
  rw [ofJson?_obj] at h
  obtain ⟨metadata, -, rfl⟩ := Option.map_eq_some_iff.1 h
  have hstated : statedType? (members.erase "metadata") = some types := by
    rw [← takeTypes_fst]
    exact htypes
  obtain ⟨hversion, hkind⟩ := get?_of_statedType? hstated
  simp only [Members.get?_erase, if_neg (show "apiVersion" ≠ "metadata" by decide)] at hversion
  simp only [Members.get?_erase, if_neg (show "kind" ≠ "metadata" by decide)] at hkind
  unfold toMembers
  rw [takeTypes_of_statedType? hstated]
  by_cases hmetadata : key = "metadata"
  · subst hmetadata
    simp [Members.get?_insertNew, Members.get?_insert]
  · by_cases hk : key = "kind"
    · subst hk
      simp [Members.get?_insertNew, Members.get?_insert, Members.get?_erase, hkind]
    · by_cases hv : key = "apiVersion"
      · subst hv
        simp [Members.get?_insertNew, Members.get?_insert, Members.get?_erase, hversion]
      · simp [Members.get?_insertNew, Members.get?_insert, Members.get?_erase, hmetadata, hk, hv]

end Object

namespace Input

/-- The value of the document that an input hands over, if it is one. -/
def document? : Input → Option Json
  | map members => some (.obj members)
  | bytes data => Yaml.document? data
  | file source => source.content.bind Yaml.document?
  | name _ | object _ => none

end Input

/-- A request that carries the members of a document. All are as they were but for the metadata,
which is there in any case and lacks what the server decides. -/
def Request.Carries (members : Members) (request : Request) : Prop :=
  ∃ (metadata sent : Members), Object.statedMetadata? members = some metadata ∧
    request.body = some (.obj sent) ∧
    (∀ key, sent.get? key =
      if key = "metadata" then some (.obj (Object.sentMetadata metadata)) else members.get? key) ∧
    (members.Sorted → sent = members.insert "metadata" (.obj (Object.sentMetadata metadata)))

namespace DynamicHandler

variable {handler : DynamicHandler} {object : Object} {input : Input} {members : Members}

/-- An operation that reads where a kind is served and then writes the members of a document, with
the given method, or fails without having written anything. -/
def WritesContent (members : Members) (method : Method) (before : Session)
    (outcome : Except Error Object × Session) : Prop :=
  ∃ lookups write?, outcome.2.requests = before.requests ++ (lookups ++ write?.toList) ∧
    (∀ request ∈ lookups, request.Reads) ∧
    (write? = none → ∃ error, outcome.1 = .error error) ∧
    ∀ write, write? = some write → write.method = method ∧ write.Carries members

/-- A document of members stands for what the members stand for. -/
theorem object_of_document? (h : input.document? = some (.obj members)) :
    DynamicHandler.object input = DynamicHandler.object (.map members) := by
  have hvalue {data : ByteArray} (hdata : Yaml.document? data = some (.obj members)) :
      documentValue data = .ok (.obj members) := by
    unfold documentValue
    rw [hdata]
  unfold DynamicHandler.object
  cases input with
  | map given =>
    obtain rfl := Json.obj.inj (Option.some.inj h)
    rfl
  | bytes data =>
    dsimp only [Input.untyped]
    rw [hvalue h]
    rfl
  | file source =>
    obtain ⟨data, hcontent, hdata⟩ := Option.bind_eq_some_iff.1 h
    have hread : source.read = .ok data := by
      unfold File.read
      rw [hcontent]
    dsimp only [Input.untyped]
    rw [hread]
    dsimp only [bind, Except.bind]
    rw [hvalue hdata]
  | name _ | object _ => cases h

/-- Only an object that states its type has a place. -/
theorem exists_types_of_place? {known : Session} {endpoint : Endpoint}
    (h : handler.place? known object = some endpoint) : ∃ types, object.types = some types := by
  obtain ⟨gvk, mapping, hgvk, -⟩ := place?_eq_some_iff.1 h
  cases htypes : object.types with
  | some types => exact ⟨types, rfl⟩
  | none =>
    unfold Object.gvk at hgvk
    rw [htypes] at hgvk
    cases hgvk

theorem carries_of_body (hread : Object.ofJson? (.obj members) = some object) {types : TypeMeta}
    (htypes : object.types = some types) {request : Request}
    (hbody : request.body = some object.sentValue) : request.Carries members := by
  have hmetadata : Object.statedMetadata? members = some object.metadata := by
    have hobject := hread
    rw [Object.ofJson?_obj] at hobject
    obtain ⟨metadata, hstated, rfl⟩ := Option.map_eq_some_iff.1 hobject
    exact hstated
  let sent := object.toMembers.insert "metadata" (.obj (Object.sentMetadata object.metadata))
  have hsent (key : String) : sent.get? key = if key = "metadata" then
      some (.obj (Object.sentMetadata object.metadata)) else members.get? key := by
    rw [Members.get?_insert, Object.get?_toMembers_of_ofJson? hread htypes]
    by_cases hkey : key = "metadata" <;> simp [hkey]
  refine ⟨object.metadata, sent, hmetadata, hbody, hsent, fun hsorted ↦ ?_⟩
  have hcontent : object.content.Sorted := (Object.of_ofJson? hread).2.2 hsorted
  apply Members.Sorted.ext ((Object.sorted_toMembers hcontent).insert _ _) (hsorted.insert _ _)
  intro key
  rw [hsent, Members.get?_insert]

theorem writesContent_of_attempt {request? : Endpoint → Option Request} {before after : Session}
    {answer : Except Error Object} {lookups : List Request} {write? : Option Request}
    {method : Method} (hread : Object.ofJson? (.obj members) = some object)
    (hattempt : handler.Attempt object request? before answer after lookups write?)
    (hwrites : ∀ request, (handler.place? after object).bind request? = some request →
      ∃ path, Writes object method path request) :
    WritesContent members method before (answer, after) := by
  refine ⟨lookups, write?, hattempt.requests, hattempt.reads, hattempt.failed, fun write hwrite ↦ ?_⟩
  rw [hattempt.write] at hwrite
  obtain ⟨path, hmethod, hbody, -⟩ := hwrites write hwrite
  obtain ⟨endpoint, hplace, -⟩ := Option.bind_eq_some_iff.1 hwrite
  obtain ⟨types, htypes⟩ := exists_types_of_place? hplace
  exact ⟨hmethod, carries_of_body hread htypes hbody⟩

theorem writesContent_of_error {method : Method} (error : Error) (before : Session) :
    WritesContent members method before (.error error, before) :=
  ⟨[], none, (List.append_nil _).symm, nofun, fun _ ↦ ⟨error, rfl⟩, nofun⟩

/-- A document that is handed over to be created or updated is refused before anything is written,
or it is written with all its members. -/
theorem writes_document (handler : DynamicHandler) (h : input.document? = some (.obj members))
    (before : Session) :
    WritesContent members .post before ((handler.create input).run.run before) ∧
      WritesContent members .put before ((handler.update input).run.run before) := by
  have hcreate : (handler.create input).run.run before = _ :=
    Exchange.run_lift_bind (DynamicHandler.object input) handler.createObject before
  have hupdate : (handler.update input).run.run before = _ :=
    Exchange.run_lift_bind (DynamicHandler.object input) handler.updateObject before
  rw [hcreate, hupdate, object_of_document? h, object_map]
  cases hread : Object.ofJson? (.obj members) with
  | none => exact ⟨writesContent_of_error .json before, writesContent_of_error .json before⟩
  | some object =>
    obtain ⟨lookups, post?, hpost⟩ := handler.exists_attempt_createObject object before
    obtain ⟨again, put?, hput⟩ := handler.exists_attempt_updateObject object before
    constructor
    · refine writesContent_of_attempt hread hpost fun request hrequest ↦ ?_
      obtain ⟨path, -, hwrites⟩ := writes_of_creationAt? hrequest
      exact ⟨path, hwrites⟩
    · refine writesContent_of_attempt hread hput fun request hrequest ↦ ?_
      obtain ⟨path, -, hwrites⟩ := writes_of_replacementAt? hrequest
      exact ⟨path, hwrites⟩

/-- A document with an unknown member that is null and unknown metadata. The null is sent, and of
the metadata what its schema knows, without the identity. -/
theorem writes_document_settings :
    let members : Members := [("apiVersion", .str "v1"), ("data", .obj [("a", .str "b")]),
      ("kind", .str "ConfigMap"), ("metadata", .obj [("color", .str "red"),
        ("name", .str "settings"), ("uid", .str "1")]), ("note", .null)]
    let outcome := ((new "apps").create (.map members)).run.run echoing
    WritesContent members .post echoing outcome ∧
      outcome.2.requests.map (·.body) = [some (.obj [("apiVersion", .str "v1"),
        ("data", .obj [("a", .str "b")]), ("kind", .str "ConfigMap"),
        ("metadata", .obj [("name", .str "settings")]), ("note", .null)])] := by
  intro members outcome
  have hdocument : (Input.map members).document? = some (.obj members) := rfl
  have hwrites := (writes_document (new "apps") hdocument echoing).1
  exact ⟨hwrites, by decide +kernel⟩

end DynamicHandler

end ClusterObjects
