import ClusterObjects.Api.Session

/-!
# What an exchange sends

`Exchange.Leads R` says of an exchange that it leads every session to one that the relation `R`
holds of, whatever was sent before and whatever the server answers. So `Exchange.Sends P` says that
every request it sends has the property `P`; `Exchange.Gives R` says what values it can end with.
The lemmas follow the ways in which exchanges are put together, so that an operation leads where its
parts lead.
-/

namespace ClusterObjects

variable {α β : Type} {P Q : Request → Prop}

namespace Session

/-- The later session has sent what the earlier one has, and then only requests with a property. -/
def Extends (P : Request → Prop) (before after : Session) : Prop :=
  ∃ requests : List Request, after.sent = requests ++ before.sent ∧ ∀ request ∈ requests, P request

namespace Extends

theorem of_sent_eq {before after : Session} (h : after.sent = before.sent) :
    Extends P before after := ⟨[], h, fun _ hrequest ↦ nomatch hrequest⟩

theorem refl (session : Session) : Extends P session session := of_sent_eq rfl

theorem trans {first second third : Session} (h : Extends P first second)
    (hnext : Extends P second third) : Extends P first third := by
  obtain ⟨requests, hsent, hall⟩ := h
  obtain ⟨later, hlater, hlast⟩ := hnext
  refine ⟨later ++ requests, by rw [hlater, hsent, List.append_assoc], ?_⟩
  intro request hrequest
  rcases List.mem_append.1 hrequest with hrequest | hrequest
  · exact hlast request hrequest
  · exact hall request hrequest

theorem mono {before after : Session} (h : Extends P before after)
    (himp : ∀ request, P request → Q request) : Extends Q before after := by
  obtain ⟨requests, hsent, hall⟩ := h
  exact ⟨requests, hsent, fun request hrequest ↦ himp request (hall request hrequest)⟩

theorem send (session : Session) {request : Request} (h : P request) :
    Extends P session ((Session.send request).run session).2 :=
  ⟨[request], rfl, fun _ hmem ↦ List.mem_singleton.1 hmem ▸ h⟩

instance : Std.Refl (Extends P) := ⟨.refl⟩

instance : Trans (Extends P) (Extends P) (Extends P) := ⟨.trans⟩

end Extends

end Session

namespace Exchange

theorem run_bind (action : Exchange α) (next : α → Exchange β) (session : Session) :
    (action >>= next).run.run session =
      match action.run.run session with
      | (.ok value, after) => (next value).run.run after
      | (.error error, after) => (.error error, after) := by
  change (action.run >>= ExceptT.bindCont next).run session = _
  rw [StateT.run_bind]
  rcases action.run.run session with ⟨result, after⟩
  cases result <;> rfl

theorem run_tryCatch (action : Exchange α) (handler : Error → Exchange α) (session : Session) :
    (tryCatch action handler).run.run session =
      match action.run.run session with
      | (.ok value, after) => (.ok value, after)
      | (.error error, after) => (handler error).run.run after := by
  rw [ExceptT.run_tryCatch, StateT.run_bind]
  rcases action.run.run session with ⟨result, after⟩
  cases result <;> rfl

/-- The exchange leads every session to a related one. -/
def Leads (R : Session → Session → Prop) (action : Exchange α) : Prop :=
  ∀ session : Session, R session (action.run.run session).2

/-- Every request that the exchange sends has the property. -/
def Sends (P : Request → Prop) (action : Exchange α) : Prop := action.Leads (Session.Extends P)

/-- Every value that the exchange ends with has the property. -/
def Gives (R : α → Prop) (action : Exchange α) : Prop :=
  ∀ session value after, action.run.run session = (.ok value, after) → R value

namespace Gives

theorem pure {R : α → Prop} {value : α} (h : R value) :
    Gives R (Pure.pure value : Exchange α) := by
  intro session found after hrun
  obtain rfl : value = found := Except.ok.inj (congrArg Prod.fst hrun)
  exact h

theorem bind {S : β → Prop} {action : Exchange α} {next : α → Exchange β}
    (hnext : ∀ value, (next value).Gives S) : Gives S (action >>= next) := by
  intro session value after hrun
  rw [run_bind] at hrun
  rcases hfirst : action.run.run session with ⟨result, between⟩
  rw [hfirst] at hrun
  cases result with
  | ok found => exact hnext found between value after hrun
  | error error => cases congrArg Prod.fst hrun

end Gives

namespace Leads

variable {R : Session → Session → Prop}

theorem adapt {action : Exchange α} (f : Error → Error) (h : action.Leads R) :
    Leads R (ExceptT.adapt f action) := h

section Refl

variable [Std.Refl R]

theorem of_run_eq {action : Exchange α}
    (h : ∀ session : Session, (action.run.run session).2 = session) : action.Leads R := by
  intro session
  rw [h session]
  exact Std.Refl.refl session

theorem pure (value : α) : Leads R (Pure.pure value : Exchange α) := of_run_eq fun _ ↦ rfl

theorem throw (error : Error) : Leads R (MonadExcept.throw error : Exchange α) :=
  of_run_eq fun _ ↦ rfl

theorem lift (result : Except Error α) : Leads R (Exchange.lift result) := by
  cases result with
  | ok value => exact pure value
  | error error => exact throw error

/-- What follows a result that is settled matters only where the result is a value. -/
theorem lift_bind {result : Except Error α} {next : α → Exchange β}
    (hnext : ∀ value, result = .ok value → (next value).Leads R) :
    Leads R (Exchange.lift result >>= next) := by
  cases result with
  | ok value => exact hnext value rfl
  | error error => exact throw error

theorem decoded (value : Option α) : Leads R (Exchange.decoded value) := by
  cases value with
  | some value => exact pure value
  | none => exact throw _

end Refl

section Trans

variable [Trans R R R]

theorem bind {action : Exchange α} {next : α → Exchange β} (h : action.Leads R)
    (hnext : ∀ value, (next value).Leads R) : Leads R (action >>= next) := by
  intro session
  have hfirst := h session
  rw [run_bind]
  rcases hrun : action.run.run session with ⟨result, after⟩
  rw [hrun] at hfirst
  cases result with
  | ok value => exact Trans.trans hfirst (hnext value after)
  | error error => exact hfirst

theorem tryCatch {action : Exchange α} {handler : Error → Exchange α} (h : action.Leads R)
    (hhandler : ∀ error, (handler error).Leads R) :
    Leads R (MonadExcept.tryCatch action handler) := by
  intro session
  have hfirst := h session
  rw [run_tryCatch]
  rcases hrun : action.run.run session with ⟨result, after⟩
  rw [hrun] at hfirst
  cases result with
  | ok value => exact hfirst
  | error error => exact Trans.trans hfirst (hhandler error after)

end Trans

end Leads

namespace Sends

theorem of_sent_eq {action : Exchange α}
    (h : ∀ session : Session, (action.run.run session).2.sent = session.sent) : action.Sends P :=
  fun session ↦ .of_sent_eq (h session)

theorem bind {action : Exchange α} {next : α → Exchange β} (h : action.Sends P)
    (hnext : ∀ value, (next value).Sends P) : Sends P (action >>= next) := Leads.bind h hnext

theorem open? {request : Option Request} (h : ∀ built, request = some built → P built)
    {unbuilt : ApiError} : Sends P (Exchange.open? request unbuilt) := by
  cases request with
  | some request => exact fun session ↦ .send session (h request rfl)
  | none => exact .throw _

/-- A call sends nothing but the request that was built for it. -/
theorem call {request : Option Request} (h : ∀ built, request = some built → P built)
    {unbuilt : ApiError} : Sends P (Exchange.call request unbuilt) := by
  refine .bind (open? h) ?_
  rintro ⟨request, reply⟩
  dsimp only
  split
  · exact .throw _
  · split
    · exact .pure _
    · exact .throw _

end Sends

end Exchange

end ClusterObjects
