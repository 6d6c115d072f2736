import ClusterObjects.Cli.Program
import ClusterObjects.Proofs.Api.Exchange

/-!
# What a command sends

A command runs part after part, and only some of its parts talk to the server. `Running.Leads R`
says of a part that it leads the session of any machine to one that the relation `R` holds of; what
a part prints, reads from files or fails with does not matter.
-/

namespace ClusterObjects.Cli.Running

variable {α β : Type}

theorem run_bind (action : Running α) (next : α → Running β) (progress : Progress) :
    (action >>= next).run.run progress =
      match action.run.run progress with
      | (.ok value, after) => (next value).run.run after
      | (.error chain, after) => (.error chain, after) := by
  change (action.run >>= ExceptT.bindCont next).run progress = _
  rw [StateT.run_bind]
  rcases action.run.run progress with ⟨result, after⟩
  cases result <;> rfl

theorem run_files_bind (next : FileTree → Running β) (progress : Progress) :
    (files >>= next).run.run progress = (next progress.machine.files).run.run progress := by
  rw [run_bind]
  rfl

/-- A part that talks to the server ends with the value that the exchange ends with. -/
theorem ok_of_run_exchange {action : Exchange α} {message : String} {progress after : Progress}
    {value : α} (h : (exchange message action).run.run progress = (.ok value, after)) :
    (action.run.run progress.machine.session).1 = .ok value := by
  unfold exchange at h
  rw [run_bind] at h
  change (explain message ((action.run.run progress.machine.session).1.mapError
    fun error ↦ [causeOf error])).run.run _ = _ at h
  cases hrun : (action.run.run progress.machine.session).1 with
  | error error =>
    rw [hrun] at h
    cases h
  | ok found =>
    rw [hrun] at h
    exact congrArg Except.ok (Except.ok.inj (congrArg Prod.fst h))

theorem run_file_bind (path : String) (next : File → Running β) (progress : Progress) :
    (file path >>= next).run.run progress =
      (next { path, content := (progress.machine.files.read path).toOption }).run.run progress := by
  rw [run_bind]
  rfl

theorem run_environment_bind (next : Environment → Running β) (progress : Progress) :
    (environment >>= next).run.run progress =
      (next progress.machine.environment).run.run progress := by
  rw [run_bind]
  rfl

/-- The part leads the session of every machine to a related one. -/
def Leads (R : Session → Session → Prop) (action : Running α) : Prop :=
  ∀ progress : Progress, R progress.machine.session (action.run.run progress).2.machine.session

namespace Leads

variable {R : Session → Session → Prop}

theorem talk {action : StateM Session α}
    (h : ∀ session : Session, R session (action.run session).2) :
    Leads R (Running.talk action) := fun progress ↦ h progress.machine.session

section Refl

variable [Std.Refl R]

theorem of_session_eq {action : Running α} (h : ∀ progress : Progress,
    (action.run.run progress).2.machine.session = progress.machine.session) : action.Leads R := by
  intro progress
  rw [h progress]
  exact Std.Refl.refl _

theorem pure (value : α) : Leads R (Pure.pure value : Running α) := of_session_eq fun _ ↦ rfl

theorem fail (chain : List Cause) : Leads R (Running.fail chain : Running α) :=
  of_session_eq fun _ ↦ rfl

theorem say (text : String) : Leads R (Running.say text) := of_session_eq fun _ ↦ rfl

theorem explain (message : String) (result : Except (List Cause) α) :
    Leads R (Running.explain message result) := by
  cases result with
  | ok value => exact pure value
  | error chain => exact fail _

theorem orFail (result : Except (List Cause) α) : Leads R (Running.orFail result) := by
  cases result with
  | ok value => exact pure value
  | error chain => exact fail chain

/-- What follows a result that is settled matters only where the result is a value. -/
theorem explain_bind {message : String} {result : Except (List Cause) α} {next : α → Running β}
    (hnext : ∀ value, result = .ok value → (next value).Leads R) :
    Leads R (Running.explain message result >>= next) := by
  cases result with
  | ok value => exact hnext value rfl
  | error chain => exact fail _

theorem orFail_bind {result : Except (List Cause) α} {next : α → Running β}
    (hnext : ∀ value, result = .ok value → (next value).Leads R) :
    Leads R (Running.orFail result >>= next) := by
  cases result with
  | ok value => exact hnext value rfl
  | error chain => exact fail _

theorem files : Leads R Running.files := of_session_eq fun _ ↦ rfl

theorem environment : Leads R Running.environment := of_session_eq fun _ ↦ rfl

theorem file (path : String) : Leads R (Running.file path) := of_session_eq fun _ ↦ rfl

end Refl

section Trans

variable [Trans R R R]

/-- What follows a part is asked about only where the part has ended with a value. -/
theorem bind_run {action : Running α} {next : α → Running β} (h : action.Leads R)
    {progress : Progress} (hnext : ∀ value after, action.run.run progress = (.ok value, after) →
      R after.machine.session ((next value).run.run after).2.machine.session) :
    R progress.machine.session ((action >>= next).run.run progress).2.machine.session := by
  have hfirst := h progress
  rw [run_bind]
  rcases hrun : action.run.run progress with ⟨result, after⟩
  rw [hrun] at hfirst
  cases result with
  | ok value => exact Trans.trans hfirst (hnext value after hrun)
  | error chain => exact hfirst

theorem bind {action : Running α} {next : α → Running β} (h : action.Leads R)
    (hnext : ∀ value, (next value).Leads R) : Leads R (action >>= next) :=
  fun _ ↦ h.bind_run fun value after _ ↦ hnext value after

end Trans

/-- A part that talks to the server leads where the exchange leads. -/
theorem exchange [Std.Refl R] [Trans R R R] {action : Exchange α} (h : action.Leads R)
    (message : String) : Leads R (Running.exchange message action) :=
  .bind (.talk h) fun _ ↦ .explain message _

end Leads

end ClusterObjects.Cli.Running
