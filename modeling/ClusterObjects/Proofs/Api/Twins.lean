import ClusterObjects.Proofs.Api.Answer
import ClusterObjects.Proofs.Api.Verbs

/-!
# Exchanges that send the same

Two exchanges are twins in a session when both leave the same session behind: they have sent the
same requests and taken the same replies. What they make of the replies may differ. Neither of them
learns where a kind is served, so that what the session knows is the same for whatever comes next.
-/

namespace ClusterObjects

variable {α β γ : Type} {session : Session} {request? : Option Request} {P : Request → Prop}

/-- The server refuses a request because of a conflict. -/
def Reply.isConflict (request : Request) (reply : Reply) : Bool :=
  match reply.result request with
  | .error cause => (Error.api cause).isAlreadyExists
  | .ok _ => false

/-- The session after a request, with what follows a conflict. -/
def Session.afterConflict (session : Session) (request? : Option Request)
    (next : Session → Session) : Session :=
  match request? with
  | none => session
  | some request =>
    if session.next.isConflict request then next (session.asked request)
    else session.asked request

namespace Exchange

/-- A second exchange follows a first one after a conflict, and only then. -/
def orAfterConflict (first second : Exchange α) : Exchange α :=
  tryCatch first fun error ↦ if error.isAlreadyExists then second else throw error

/-- A reply that does not decode is no conflict. -/
theorem session_orAfterConflict {endpoint : Endpoint} {first : Exchange Object}
    (h : first.Asks request? endpoint.objectIn) (second : Exchange Object) (session : Session) :
    ((first.orAfterConflict second).run.run session).2 =
      session.afterConflict request? fun session ↦ (second.run.run session).2 := by
  unfold orAfterConflict Session.afterConflict
  rw [run_tryCatch, h session]
  cases request? with
  | none => rfl
  | some request =>
    cases hresult : session.next.result request with
    | error cause =>
      have hconflict : session.next.isConflict request = (Error.api cause).isAlreadyExists := by
        unfold Reply.isConflict
        rw [hresult]
      dsimp only
      rw [endpoint.objectIn_of_error hresult, hconflict]
      dsimp only
      split <;> rfl
    | ok body =>
      have hconflict : session.next.isConflict request = false := by
        unfold Reply.isConflict
        rw [hresult]
      dsimp only
      rw [hconflict]
      rcases endpoint.objectIn_of_ok hresult with ⟨object, h⟩ | h
      · rw [h]
        rfl
      · rw [h]
        rfl

/-- The exchanges are twins, and what they send has the property `P`. -/
structure Twins (P : Request → Prop) (first : Exchange α) (second : Exchange β)
    (session : Session) : Prop where
  session_eq : (second.run.run session).2 = (first.run.run session).2
  mappings_eq : (first.run.run session).2.mappings = session.mappings
  sends : session.Extends P (first.run.run session).2

namespace Twins

theorem of_throw (error other : Error) :
    Twins P (throw error : Exchange α) (throw other : Exchange β) session :=
  ⟨rfl, rfl, .refl session⟩

theorem of_pure (value : α) (other : β) :
    Twins P (pure value : Exchange α) (pure other : Exchange β) session :=
  ⟨rfl, rfl, .refl session⟩

/-- Exchanges that ask the same are twins, whatever they read in the reply. -/
theorem of_asks {first : Exchange α} {second : Exchange β}
    {meaning : Request → Reply → Except Error α} {other : Request → Reply → Except Error β}
    (hfirst : first.Asks request? meaning) (hsecond : second.Asks request? other)
    (hrequest : ∀ request, request? = some request → P request) :
    Twins P first second session := by
  cases request? with
  | none =>
    constructor
    · rw [hfirst.run_of_none, hsecond.run_of_none]
    · rw [hfirst.run_of_none]
    · rw [hfirst.run_of_none]
      exact .refl session
  | some request =>
    constructor
    · rw [hfirst.run_of_some, hsecond.run_of_some]
    · rw [hfirst.run_of_some]
      rfl
    · rw [hfirst.run_of_some]
      exact .send session (hrequest request rfl)

theorem lift_bind {result : Except Error α} {first : α → Exchange β} {second : α → Exchange γ}
    (h : ∀ value, result = .ok value → Twins P (first value) (second value) session) :
    Twins P (lift result >>= first) (lift result >>= second) session := by
  cases result with
  | ok value => exact h value rfl
  | error error => exact of_throw error error

/-- What the exchanges do before they send anything makes no difference. -/
theorem of_run_eq {first another : Exchange α} {second other : Exchange β}
    (hfirst : first.run.run session = another.run.run session)
    (hsecond : second.run.run session = other.run.run session)
    (h : Twins P another other session) : Twins P first second session := by
  constructor
  · rw [hfirst, hsecond, h.session_eq]
  · rw [hfirst, h.mappings_eq]
  · rw [hfirst]
    exact h.sends

theorem orAfterConflict {first second : Endpoint} {create recreate update renew : Exchange Object}
    (hcreate : create.Asks request? first.objectIn)
    (hrecreate : recreate.Asks request? second.objectIn)
    (hrequest : ∀ request, request? = some request → P request)
    (hupdate : ∀ request, Twins P update renew (session.asked request)) :
    Twins P (create.orAfterConflict update) (recreate.orAfterConflict renew) session := by
  have hsession := session_orAfterConflict hcreate update session
  have hother := session_orAfterConflict hrecreate renew session
  unfold Session.afterConflict at hsession hother
  cases request? with
  | none => exact ⟨by rw [hsession, hother], by rw [hsession], by rw [hsession]; exact .refl _⟩
  | some request =>
    dsimp only at hsession hother
    obtain ⟨hupdated, hmappings, hsends⟩ := hupdate request
    have hposted : session.Extends P (session.asked request) := .send session (hrequest request rfl)
    by_cases hconflict : session.next.isConflict request = true
    · rw [if_pos hconflict] at hsession hother
      constructor
      · rw [hsession, hother, hupdated]
      · rw [hsession, hmappings]
        rfl
      · rw [hsession]
        exact hposted.trans hsends
    · rw [if_neg hconflict] at hsession hother
      constructor
      · rw [hsession, hother]
      · rw [hsession]
        rfl
      · rw [hsession]
        exact hposted

end Twins

end Exchange

/-! ## Two collections at one place -/

/-- Two collections at one place, which may read their objects in different ways. -/
structure Endpoint.Beside (front : String) (first second : Endpoint) : Prop where
  path_eq : second.path = first.path
  isWhole : Request.IsWhole front
  under : ∃ back, first.path = front ++ back

namespace Endpoint.Beside

variable {front : String} {first second : Endpoint} (h : Beside front first second)
include h

theorem objectPath?_eq (name : String) : second.objectPath? name = first.objectPath? name := by
  unfold objectPath?
  rw [h.path_eq]

theorem under_objectPath? {name path : String} (hpath : first.objectPath? name = some path) :
    ∃ back, path = front ++ back := by
  obtain ⟨back, hback⟩ := h.under
  obtain ⟨-, rfl⟩ := objectPath?_eq_some_iff.1 hpath
  refine ⟨back ++ "/" ++ name, ?_⟩
  rw [hback, String.append_assoc, String.append_assoc, String.append_assoc]

/-- A request for an object of the collection keeps the front of its path. -/
theorem under_of_bind {name : String} {method : Method}
    {query? : Option (List (String × String))} {contentType : Option String} {body : Option Json}
    {request : Request}
    (hrequest : ((first.objectPath? name).bind fun path ↦
      Request.build? method path query? contentType body) = some request) :
    request.Under front := by
  obtain ⟨path, hpath, hbuild⟩ := Option.bind_eq_some_iff.1 hrequest
  obtain ⟨back, rfl⟩ := h.under_objectPath? hpath
  exact Request.under_of_build? h.isWhole hbuild

theorem createRequest?_eq (params : PostParams) (object : Object) :
    second.createRequest? params object = first.createRequest? params object := by
  unfold createRequest?
  rw [h.path_eq]

theorem under_createRequest? {params : PostParams} {object : Object} (request : Request)
    (hrequest : first.createRequest? params object = some request) : request.Under front := by
  obtain ⟨back, hback⟩ := h.under
  obtain ⟨-, hbuild⟩ := (Option.ite_none_right_eq_some ..).1 hrequest
  exact Request.under_of_build? h.isWhole (hback ▸ hbuild)

theorem twins_create (params : PostParams) (object : Object) :
    (first.create params object).Twins (Request.Under front) (second.create params object)
      session :=
  .of_asks (first.asks_create params object)
    (h.createRequest?_eq params object ▸ second.asks_create params object)
    h.under_createRequest?

theorem twins_replace (name : String) (params : PostParams) (object : Object) :
    (first.replace name params object).Twins (Request.Under front)
      (second.replace name params object) session := by
  have hrequest : second.replaceRequest? name params object =
      first.replaceRequest? name params object := by
    unfold replaceRequest?
    rw [h.objectPath?_eq]
  exact .of_asks (first.asks_replace name params object)
    (hrequest ▸ second.asks_replace name params object) fun _ ↦ h.under_of_bind

theorem twins_delete (name : String) (params : DeleteParams) :
    (first.delete name params).Twins (Request.Under front) (second.delete name params) session := by
  have hrequest : second.deleteRequest? name params = first.deleteRequest? name params := by
    unfold deleteRequest?
    rw [h.objectPath?_eq]
  exact .of_asks (first.asks_delete name params) (hrequest ▸ second.asks_delete name params)
    fun _ ↦ h.under_of_bind

theorem twins_get (name : String) :
    (first.get name).Twins (Request.Under front) (second.get name) session := by
  have hrequest : second.getRequest? name = first.getRequest? name := by
    unfold getRequest?
    rw [h.objectPath?_eq]
  exact .of_asks (first.asks_get name) (hrequest ▸ second.asks_get name) fun _ ↦ h.under_of_bind

theorem twins_patch (name : String) (params : PatchParams) (patch : Patch) :
    (first.patch name params patch).Twins (Request.Under front) (second.patch name params patch)
      session := by
  have hrequest : second.patchRequest? name params patch =
      first.patchRequest? name params patch := by
    unfold patchRequest?
    rw [h.objectPath?_eq]
  refine .of_asks (first.asks_patch name params patch)
    (hrequest ▸ second.asks_patch name params patch) fun request hbuilt ↦ ?_
  obtain ⟨path, hpath, hfits⟩ := Option.bind_eq_some_iff.1 hbuilt
  obtain ⟨back, rfl⟩ := h.under_objectPath? hpath
  obtain ⟨-, hbuild⟩ := (Option.ite_none_right_eq_some ..).1 hfits
  exact Request.under_of_build? h.isWhole hbuild

end Endpoint.Beside

end ClusterObjects
