import ClusterObjects.Api.Endpoint
import ClusterObjects.Proofs.Api.Exchange

/-!
# What an exchange makes of the answers

Most exchanges send one request, if it can be built at all, and end with what the server's next
reply to it means. `Exchange.Asks` says so of an exchange, with the request and the meaning of the
reply written out, so that a longer exchange can be followed request by request.
-/

namespace ClusterObjects

variable {α β : Type}

namespace Session

/-- The session after a request, with the reply to it taken. -/
def asked (session : Session) (request : Request) : Session :=
  { session with script := session.script.drop 1, sent := request :: session.sent }

@[simp] theorem requests_asked (session : Session) (request : Request) :
    (session.asked request).requests = session.requests ++ [request] :=
  List.reverse_cons

end Session

/-- A reply with a value in its body. -/
def Reply.ofValue (status : Nat) (value : Json) : Reply := .answer status (.text value.text) false

/-- A reply that says that a request has failed. -/
def Reply.ofFailure (code : Nat) (reason : String) : Reply :=
  ofValue code (Json.object
    [("status", .str "Failure"), ("reason", .str reason), ("code", .int code)])

/-- The value in the body of a reply. -/
def Reply.value (request : Request) (reply : Reply) : Except Error Json :=
  match reply.result request with
  | .error error => .error (.api error)
  | .ok body =>
    match Json.read? body with
    | some value => .ok value
    | none => .error (.api .undecodable)

/-- A value that is read back from its text is what a successful reply with it holds. -/
theorem Reply.value_ofValue {status : Nat} {value : Json} (hstatus : isFailure status = false)
    (hread : Json.read? value.text = some value) (request : Request) :
    (ofValue status value).value request = .ok value := by
  unfold Reply.value ofValue result
  simp only [Body.textFor, hstatus, hread, Bool.false_eq_true, if_false]

/-- What was decoded, where a value that does not decode is an error. -/
def decodedOr (value : Option α) : Except Error α :=
  match value with
  | some value => .ok value
  | none => .error (.api .undecodable)

theorem Reply.exists_api_of_value_error {request : Request} {reply : Reply} {error : Error}
    (h : reply.value request = .error error) : ∃ cause, error = .api cause := by
  unfold value at h
  cases hresult : reply.result request with
  | error cause =>
    rw [hresult] at h
    exact ⟨cause, (Except.error.inj h).symm⟩
  | ok body =>
    rw [hresult] at h
    dsimp only at h
    cases hread : Json.read? body with
    | none =>
      rw [hread] at h
      exact ⟨_, (Except.error.inj h).symm⟩
    | some value =>
      rw [hread] at h
      cases h

theorem exists_api_of_decodedOr_error {value : Option α} {error : Error}
    (h : decodedOr value = .error error) : ∃ cause, error = .api cause := by
  cases value with
  | none => exact ⟨_, (Except.error.inj h).symm⟩
  | some value => cases h

namespace Exchange

/-- The exchange ends with a result and sends nothing. -/
def Ends (action : Exchange α) (result : Except Error α) : Prop :=
  ∀ session : Session, action.run.run session = (result, session)

theorem ends_lift (result : Except Error α) : (lift result).Ends result := by
  cases result with
  | ok value => exact fun _ ↦ rfl
  | error error => exact fun _ ↦ rfl

theorem run_lift_bind (result : Except Error α) (next : α → Exchange β) (session : Session) :
    (lift result >>= next).run.run session =
      match result with
      | .error error => (.error error, session)
      | .ok value => (next value).run.run session := by
  rw [run_bind, ends_lift result session]
  cases result <;> rfl

theorem ends_decoded (value : Option α) : (decoded value).Ends (decodedOr value) := by
  cases value with
  | some value => exact fun _ ↦ rfl
  | none => exact fun _ ↦ rfl

/-- The exchange sends one request, if it could be built, and ends with what the reply means. -/
def Asks (action : Exchange α) (request? : Option Request)
    (meaning : Request → Reply → Except Error α) (unbuilt : ApiError := .badRequest) : Prop :=
  ∀ session : Session, action.run.run session =
    match request? with
    | none => (.error (.api unbuilt), session)
    | some request => (meaning request session.next, session.asked request)

namespace Asks

variable {action : Exchange α} {request? : Option Request}
  {meaning : Request → Reply → Except Error α} {unbuilt : ApiError}

theorem run_of_none (h : action.Asks none meaning unbuilt) (session : Session) :
    action.run.run session = (.error (.api unbuilt), session) := h session

theorem run_of_some {request : Request} (h : action.Asks (some request) meaning unbuilt)
    (session : Session) :
    action.run.run session = (meaning request session.next, session.asked request) := h session

theorem sends {P : Request → Prop} (h : action.Asks request? meaning unbuilt)
    (hrequest : ∀ request, request? = some request → P request) : action.Sends P := by
  intro session
  rw [h session]
  cases request? with
  | none => exact .refl session
  | some request => exact .send session (hrequest request rfl)

/-- Nothing is learned from the reply to a request. -/
theorem mappings_eq (h : action.Asks request? meaning unbuilt) (session : Session) :
    (action.run.run session).2.mappings = session.mappings := by
  rw [h session]
  cases request? with
  | none => rfl
  | some request => rfl

theorem bind (h : action.Asks request? meaning unbuilt) {next : α → Exchange β}
    {result : α → Except Error β} (hnext : ∀ value, (next value).Ends (result value)) :
    (action >>= next).Asks request? (fun request reply ↦ meaning request reply >>= result)
      unbuilt := by
  intro session
  rw [run_bind, h session]
  cases request? with
  | none => rfl
  | some request =>
    dsimp only
    cases meaning request session.next with
    | error error => rfl
    | ok value => exact hnext value _

end Asks

theorem asks_open? (request? : Option Request) (unbuilt : ApiError) :
    (open? request? unbuilt).Asks request? (fun request reply ↦ .ok (request, reply)) unbuilt := by
  cases request? with
  | none => exact fun _ ↦ rfl
  | some request => exact fun _ ↦ rfl

theorem asks_call (request? : Option Request) (unbuilt : ApiError) :
    (call request? unbuilt).Asks request? Reply.value unbuilt := by
  have hends (asked : Request × Reply) : Ends (match asked.2.result asked.1 with
      | .error error => failApi error
      | .ok body =>
        match Json.read? body with
        | some value => return value
        | none => failApi .undecodable) (asked.2.value asked.1) := by
    intro session
    unfold Reply.value
    cases asked.2.result asked.1 with
    | error error => rfl
    | ok body =>
      dsimp only
      cases Json.read? body <;> rfl
  exact (asks_open? request? unbuilt).bind hends

end Exchange

namespace Endpoint

/-- The object in a reply. -/
def objectIn (endpoint : Endpoint) (request : Request) (reply : Reply) : Except Error Object := do
  decodedOr (endpoint.decode (← reply.value request))

theorem asks_create (endpoint : Endpoint) (params : PostParams) (object : Object) :
    (endpoint.create params object).Asks (endpoint.createRequest? params object)
      endpoint.objectIn :=
  (Exchange.asks_call _ _).bind fun _ ↦ Exchange.ends_decoded _

theorem asks_replace (endpoint : Endpoint) (name : String) (params : PostParams)
    (object : Object) :
    (endpoint.replace name params object).Asks (endpoint.replaceRequest? name params object)
      endpoint.objectIn :=
  (Exchange.asks_call _ _).bind fun _ ↦ Exchange.ends_decoded _

theorem asks_get (endpoint : Endpoint) (name : String) :
    (endpoint.get name).Asks (endpoint.getRequest? name) endpoint.objectIn :=
  (Exchange.asks_call _ _).bind fun _ ↦ Exchange.ends_decoded _

theorem asks_patch (endpoint : Endpoint) (name : String) (params : PatchParams) (patch : Patch) :
    (endpoint.patch name params patch).Asks (endpoint.patchRequest? name params patch)
      endpoint.objectIn :=
  (Exchange.asks_call _ _).bind fun _ ↦ Exchange.ends_decoded _

theorem objectIn_of_error (endpoint : Endpoint) {request : Request} {reply : Reply}
    {cause : ApiError} (h : reply.result request = .error cause) :
    endpoint.objectIn request reply = .error (.api cause) := by
  unfold objectIn Reply.value
  rw [h]
  rfl

/-- The body of a successful answer is an object, or it does not decode. -/
theorem objectIn_of_ok (endpoint : Endpoint) {request : Request} {reply : Reply} {body : String}
    (h : reply.result request = .ok body) :
    (∃ object, endpoint.objectIn request reply = .ok object) ∨
      endpoint.objectIn request reply = .error (.api .undecodable) := by
  unfold objectIn Reply.value
  rw [h]
  dsimp only
  cases Json.read? body with
  | none => exact .inr rfl
  | some value =>
    change (∃ object, decodedOr (endpoint.decode value) = .ok object) ∨ _
    cases hdecode : endpoint.decode value with
    | none => exact .inr (by change decodedOr (endpoint.decode value) = _; rw [hdecode]; rfl)
    | some object => exact .inl ⟨object, rfl⟩

/-- Whether the value that a deletion is answered with says that it went well. -/
def gone (endpoint : Endpoint) (value : Json) : Except Error Unit :=
  if value.get? "kind" = some (.str "Status") then
    if isStatusObject value then .ok () else .error (.api .undecodable)
  else (decodedOr (endpoint.decode value)).map fun _ ↦ ()

theorem asks_delete (endpoint : Endpoint) (name : String) (params : DeleteParams) :
    (endpoint.delete name params).Asks (endpoint.deleteRequest? name params)
      fun request reply ↦ reply.value request >>= endpoint.gone := by
  refine (Exchange.asks_call _ _).bind fun value session ↦ ?_
  unfold gone
  split
  · split
    · rfl
    · rfl
  · rw [Exchange.run_bind, Exchange.ends_decoded _ session]
    cases decodedOr (endpoint.decode value) <;> rfl

/-- The page of a list in a reply. -/
def pageIn (endpoint : Endpoint) (request : Request) (reply : Reply) : Except Error Page := do
  decodedOr (endpoint.page? (← reply.value request))

theorem asks_listPage (endpoint : Endpoint) (query : List (String × String)) :
    (endpoint.listPage query).Asks (endpoint.listRequest? query) endpoint.pageIn :=
  (Exchange.asks_call _ _).bind fun _ ↦ Exchange.ends_decoded _

end Endpoint

end ClusterObjects
