import ClusterObjects.Handler.Operations
import ClusterObjects.Proofs.Api.Answer
import ClusterObjects.Proofs.Api.Verbs
import ClusterObjects.Proofs.Json.Members

/-!
# Creating an object or updating it

An object is applied in at most two requests. The first creates it in its collection; only when the
server answers that there is a conflict, and the object has a name, a second one replaces it, with
the same body and at the same path with the name behind it. `apply_creates_or_updates` goes through
all the ways in which this may end, for any input and any answers.
-/

namespace ClusterObjects

theorem nonEmpty?_eq_none_iff {s : String} : nonEmpty? s = none ↔ s = "" := by
  simp [nonEmpty?]

theorem nonEmpty?_eq_some_iff {s own : String} : nonEmpty? s = some own ↔ s ≠ "" ∧ s = own := by
  simp [nonEmpty?]

theorem Kind.isWhole_plural (kind : Kind) : Request.IsWhole kind.plural := by
  cases kind <;> decide +kernel

namespace Object

/-- The members of the metadata that the server decides. -/
def serverFields : List String := ["resourceVersion", "uid"]

/-- The value that is sent for an object: its own, without what the server decides. -/
def sentValue (object : Object) : Json :=
  .obj (object.toMembers.insert "metadata"
    (.obj (object.metadata.filter fun member ↦ !serverFields.contains member.1)))

theorem toMembers_metadata (object : Object) (metadata : Json.Members) :
    toMembers { object with metadata } = object.toMembers.insert "metadata" (.obj metadata) := by
  have hversion : "apiVersion" < "metadata" := by decide +kernel
  have hkind : "kind" < "metadata" := by decide +kernel
  unfold toMembers
  cases object.types with
  | none => exact (Json.Members.insert_insert ..).symm
  | some types =>
    dsimp only
    rw [← Json.Members.insertNew_insert hkind, ← Json.Members.insertNew_insert hversion,
      Json.Members.insert_insert]

theorem toJson_withoutServerFields (object : Object) :
    object.withoutServerFields.toJson = object.sentValue := by
  have hmetadata : Json.Members.erase (Json.Members.erase object.metadata "resourceVersion") "uid" =
      object.metadata.filter fun member ↦ !serverFields.contains member.1 := by
    unfold Json.Members.erase serverFields
    rw [List.filter_filter]
    refine List.filter_congr fun member _ ↦ ?_
    rw [List.contains_cons, List.contains_cons, List.contains_nil, Bool.or_false, Bool.not_or,
      Bool.and_comm]
    rfl
  unfold withoutServerFields sentValue
  rw [hmetadata]
  exact congrArg Json.obj (object.toMembers_metadata _)

/-- The name of an object, when it is not empty. -/
def ownName? (object : Object) : Option String := object.name?.bind nonEmpty?

theorem requiredName_eq (object : Object) :
    object.requiredName =
      match object.ownName? with
      | some name => .ok name
      | none => .error .missingName := rfl

end Object

/-- The server has refused to create an object that is there already. -/
def IsConflict (answer : Except Error Object) : Prop :=
  ∃ reason message, answer = .error (.api (.status 409 reason message))

namespace Endpoint

/-- What a reply to a request cannot be read as is an error of the exchange. -/
theorem objectIn_error {endpoint : Endpoint} {request : Request} {reply : Reply} {error : Error}
    (h : endpoint.objectIn request reply = .error error) : ∃ cause, error = .api cause := by
  unfold objectIn at h
  cases hvalue : reply.value request with
  | error cause =>
    rw [hvalue] at h
    cases h
    exact Reply.exists_api_of_value_error hvalue
  | ok value =>
    rw [hvalue] at h
    exact exists_api_of_decodedOr_error h

theorem isConflict_iff {endpoint : Endpoint} {request : Request} {reply : Reply} {error : Error}
    (h : endpoint.objectIn request reply = .error error) :
    IsConflict (endpoint.objectIn request reply) ↔ error.isAlreadyExists = true := by
  obtain ⟨cause, rfl⟩ := objectIn_error h
  unfold IsConflict
  rw [h]
  cases cause with
  | status code reason message =>
    simp [Error.isAlreadyExists, Error.statusCode, ApiError.statusCode]
  | connection | undecodable | badRequest | badAddress | unanswered | unknownKind =>
    simp [Error.isAlreadyExists, Error.statusCode, ApiError.statusCode]

end Endpoint

namespace Handler

/-- Where an object is created, or where it is replaced under a name. -/
def destinationOf (handler : Handler) (object : Object) (name? : Option String) : Destination where
  group := handler.kind.group
  apiVersion := handler.kind.apiVersion
  plural := handler.kind.plural
  scope? := if handler.kind.namespaced then some (handler.namespaceOf object) else none
  name? := name?

/-- The request writes an object. Its path is the one of the object's destination, unless a name
ends the path early. -/
structure Writes (handler : Handler) (object : Object) (method : Method) (name? : Option String)
    (request : Request) : Prop where
  method : request.method = method
  body : request.body = some object.sentValue
  path : (handler.kind.namespaced = true → Request.IsWhole (handler.namespaceOf object)) →
    (∀ name, name? = some name → Request.IsWhole name) →
    request.path = (handler.destinationOf object name?).path

/-- The request that creates an object. -/
def creation? (handler : Handler) (object : Object) : Option Request :=
  (handler.endpointOf object).createRequest? handler.options.post object.withoutServerFields

/-- The request that replaces an object. -/
def replacement? (handler : Handler) (object : Object) (name : String) : Option Request :=
  (handler.endpointOf object).replaceRequest? name handler.options.post object.withoutServerFields

/-- What a reply about an object means. -/
def answer (handler : Handler) (object : Object) (request : Request) (reply : Reply) :
    Except Error Object :=
  (handler.endpointOf object).objectIn request reply

/-- How the application of an object goes, with its result and the session after it. -/
inductive Applies (handler : Handler) (object : Object) (before : Session) :
    Except Error Object → Session → Prop where
  | uncreatable (hpost : handler.creation? object = none) :
      handler.Applies object before (.error (.api .badRequest)) before
  | settled {post : Request} (hpost : handler.creation? object = some post)
      (hother : ¬ IsConflict (handler.answer object post before.next)) :
      handler.Applies object before (handler.answer object post before.next) (before.asked post)
  | nameless {post : Request} (hpost : handler.creation? object = some post)
      (hconflict : IsConflict (handler.answer object post before.next))
      (hname : object.ownName? = none) :
      handler.Applies object before (.error .missingName) (before.asked post)
  | irreplaceable {post : Request} {name : String}
      (hpost : handler.creation? object = some post)
      (hconflict : IsConflict (handler.answer object post before.next))
      (hname : object.ownName? = some name) (hput : handler.replacement? object name = none) :
      handler.Applies object before (.error (.api .badRequest)) (before.asked post)
  | replaced {post put : Request} {name : String}
      (hpost : handler.creation? object = some post)
      (hconflict : IsConflict (handler.answer object post before.next))
      (hname : object.ownName? = some name) (hput : handler.replacement? object name = some put) :
      handler.Applies object before (handler.answer object put (before.asked post).next)
        ((before.asked post).asked put)

variable {handler : Handler} {object : Object} {name : String} {post put : Request}
  {session : Session}

theorem isWhole_destinationOf {name? : Option String}
    (hscope : handler.kind.namespaced = true → Request.IsWhole (handler.namespaceOf object))
    (hname : ∀ name, name? = some name → Request.IsWhole name) :
    Request.IsWhole (handler.destinationOf object name?).path := by
  rw [Destination.isWhole_path_iff]
  refine ⟨?_, handler.kind.isWhole_plural, fun scope hfound ↦ ?_, hname⟩
  · change Request.IsWhole handler.kind.apiVersion
    cases handler.kind <;> decide +kernel
  · obtain ⟨hscoped, heq⟩ := (Option.ite_none_right_eq_some ..).1 hfound
    exact Option.some.inj heq ▸ hscope hscoped

theorem Writes.of_build? {method : Method} {name? : Option String} {path : String}
    {query : List (String × String)} {contentType : Option String} {request : Request}
    (hpath : path = (handler.destinationOf object name?).path)
    (h : Request.build? method path query contentType (some object.withoutServerFields.toJson) =
      some request) : handler.Writes object method name? request := by
  obtain ⟨hmethod, -, hbody⟩ := Request.build?_eq h
  refine ⟨hmethod, object.toJson_withoutServerFields ▸ hbody, fun hscope hname ↦ ?_⟩
  subst hpath
  rw [Request.build?_of_isWhole (isWhole_destinationOf hscope hname) h]

theorem writes_of_creation? (h : handler.creation? object = some post) :
    handler.Writes object .post none post := by
  obtain ⟨-, hbuild⟩ := (Option.ite_none_right_eq_some ..).1 h
  exact .of_build? String.append_empty.symm hbuild

theorem writes_of_replacement? (h : handler.replacement? object name = some put) :
    handler.Writes object .put (some name) put := by
  obtain ⟨path, hpath, hbuild⟩ := Option.bind_eq_some_iff.1 h
  obtain ⟨-, rfl⟩ := Endpoint.objectPath?_eq_some_iff.1 hpath
  refine .of_build? ?_ hbuild
  rw [String.append_assoc]
  rfl

/-- What a target is resolved to: a name to itself, and an object to where it is and its own
name. -/
theorem resolve_eq (handler : Handler) (target : Input) :
    handler.resolve target =
      match target with
      | .name name => .ok (handler.namespaceName, name)
      | target =>
        match handler.object target with
        | .error error => .error error
        | .ok object =>
          match object.ownName? with
          | none => .error .missingName
          | some name => .ok (handler.namespaceOf object, name) := by
  have hobject (result : Except Error Object) :
      (do
        let object ← result
        let name ← object.requiredName
        return (handler.namespaceOf object, name)) =
      match result with
      | .error error => .error error
      | .ok object =>
        match object.ownName? with
        | none => .error .missingName
        | some name => (.ok (handler.namespaceOf object, name) : Except Error _) := by
    cases result with
    | error error => rfl
    | ok object =>
      dsimp only [bind, Except.bind]
      rw [object.requiredName_eq]
      cases object.ownName? <;> rfl
  cases target with
  | name name => rfl
  | file _ | bytes _ | object _ | map _ => exact hobject _

/-- An update sends nothing for an object without a name. -/
theorem run_updateObject (handler : Handler) (object : Object) (session : Session) :
    (handler.updateObject object).run.run session =
      match object.ownName? with
      | none => (.error .missingName, session)
      | some name =>
        match handler.replacement? object name with
        | none => (.error (.api .badRequest), session)
        | some put => (handler.answer object put session.next, session.asked put) := by
  unfold updateObject
  rw [Exchange.run_lift_bind, object.requiredName_eq]
  cases object.ownName? with
  | none => rfl
  | some name => exact Endpoint.asks_replace _ name _ _ session

/-- After the first answer an application is over, or it goes on as an update. -/
theorem run_applyObject (handler : Handler) (object : Object) (session : Session) :
    (handler.applyObject object).run.run session =
      match handler.creation? object with
      | none => (.error (.api .badRequest), session)
      | some post =>
        match handler.answer object post session.next with
        | .ok created => (.ok created, session.asked post)
        | .error error =>
          if error.isAlreadyExists then (handler.updateObject object).run.run (session.asked post)
          else (.error error, session.asked post) := by
  have hcreate : (handler.createObject object).Asks (handler.creation? object)
      (handler.answer object) := Endpoint.asks_create _ _ _
  unfold applyObject
  rw [Exchange.run_tryCatch, hcreate session]
  cases handler.creation? object with
  | none => rfl
  | some post =>
    dsimp only
    cases handler.answer object post session.next with
    | ok created => rfl
    | error error =>
      dsimp only
      cases error.isAlreadyExists <;> rfl

theorem applies_applyObject (handler : Handler) (object : Object) (session : Session) :
    handler.Applies object session ((handler.applyObject object).run.run session).1
      ((handler.applyObject object).run.run session).2 := by
  rw [run_applyObject]
  cases hpost : handler.creation? object with
  | none => exact .uncreatable hpost
  | some post =>
    dsimp only
    cases hanswer : handler.answer object post session.next with
    | ok created =>
      have hother : ¬ IsConflict (handler.answer object post session.next) := by
        rintro ⟨reason, message, hconflict⟩
        cases hanswer.symm.trans hconflict
      have hsettled := Applies.settled hpost hother
      rwa [hanswer] at hsettled
    | error error =>
      have hiff := Endpoint.isConflict_iff hanswer
      dsimp only
      by_cases hexists : error.isAlreadyExists = true
      · have hconflict := hiff.2 hexists
        rw [if_pos hexists, run_updateObject]
        cases hname : object.ownName? with
        | none => exact .nameless hpost hconflict hname
        | some name =>
          dsimp only
          cases hput : handler.replacement? object name with
          | none => exact .irreplaceable hpost hconflict hname hput
          | some put => exact .replaced hpost hconflict hname hput
      · have hsettled := Applies.settled hpost (hiff.not.2 hexists)
        rw [hanswer] at hsettled
        rwa [if_neg hexists]

/-- An input that is no object sends nothing. An object is created by one request; only when the
server answers with a conflict and the object has a name, a second one replaces it. Both write the
same value. -/
theorem apply_creates_or_updates (handler : Handler) (input : Input) (session : Session) :
    match handler.object input with
    | .error error => (handler.apply input).run.run session = (.error error, session)
    | .ok object =>
      handler.Applies object session ((handler.apply input).run.run session).1
        ((handler.apply input).run.run session).2 ∧
      (∀ post, handler.creation? object = some post → handler.Writes object .post none post) ∧
      ∀ name put, handler.replacement? object name = some put →
        handler.Writes object .put (some name) put := by
  have happly : (handler.apply input).run.run session = _ :=
    Exchange.run_lift_bind (handler.object input) handler.applyObject session
  rw [happly]
  cases handler.object input with
  | error error => rfl
  | ok object =>
    exact ⟨handler.applies_applyObject object session, fun _ ↦ writes_of_creation?,
      fun _ _ ↦ writes_of_replacement?⟩

/-- An object that is there already is replaced, without its identity and version. -/
theorem apply_replaces_existing :
    let handler := Handler.new .configMap "apps"
    let object : Object := ⟨some Kind.configMap.typeMeta,
      [("name", .str "settings"), ("resourceVersion", .str "7"), ("uid", .str "1")], []⟩
    let session : Session :=
      { script := [.ofFailure 409 "AlreadyExists", .answer 200 .echo false] }
    let outcome := (handler.apply (.object object)).run.run session
    handler.Applies object session outcome.1 outcome.2 ∧
      outcome.1 = .ok { object with metadata := [("name", .str "settings")] } ∧
      ∃ post put, outcome.2.requests = [post, put] ∧ handler.Writes object .post none post ∧
        handler.Writes object .put (some "settings") put ∧
        put.path = post.path ++ "/settings" ∧
        put.body = some (Json.object [("apiVersion", .str "v1"), ("kind", .str "ConfigMap"),
          ("metadata", .obj [("name", .str "settings")])]) := by
  intro handler object session outcome
  let post : Request := ⟨.post, "/api/v1/namespaces/apps/configmaps", [],
    some Endpoint.jsonType, some object.sentValue⟩
  let put : Request := { post with
    method := .put, path := "/api/v1/namespaces/apps/configmaps/settings" }
  obtain ⟨happlies, hposts, hputs⟩ := apply_creates_or_updates handler (.object object) session
  have hpost : handler.creation? object = some post := by decide +kernel
  have hput : handler.replacement? object "settings" = some put := by decide +kernel
  have hrequests : outcome.2.requests = [post, put] := by decide +kernel
  have hresult : outcome.1 = .ok { object with metadata := [("name", .str "settings")] } := by
    decide +kernel
  exact ⟨happlies, hresult, post, put, hrequests, hposts post hpost, hputs _ put hput, by decide,
    by decide +kernel⟩

/-- A blank in the name makes the second request impossible, and the result is not the conflict that
the server answered with. A hash in the name ends the path of the second request early. -/
theorem apply_odd_names :
    let handler := Handler.new .configMap "apps"
    let named (name : String) : Input := .map [("metadata", .obj [("name", .str name)])]
    let session : Session :=
      { script := [.ofFailure 409 "AlreadyExists", .answer 200 .echo false] }
    let blank := (handler.apply (named "a b")).run.run session
    let hash := (handler.apply (named "settings#")).run.run session
    (blank.2.requests.map (·.method) = [.post] ∧ blank.1 = .error (.api .badRequest) ∧
      ∀ post ∈ blank.2.requests, handler.endpoint.objectIn post session.next =
        .error (.api (.status 409 "AlreadyExists" ""))) ∧
    hash.2.requests.map (fun request ↦ (request.method, request.path)) =
      [(.post, "/api/v1/namespaces/apps/configmaps"),
        (.put, "/api/v1/namespaces/apps/configmaps/settings")] := by
  decide +kernel

end Handler

end ClusterObjects
