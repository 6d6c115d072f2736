import ClusterObjects.Proofs.Api.Answer
import ClusterObjects.Proofs.Api.Verbs
import ClusterObjects.Proofs.Lookup

/-!
# Looking kinds up

A kind whose place a session knows is not asked for. For any other one the session asks the server
once, and remembers the answer if there is one; what it knew before it still knows. So what is sent
can be judged in the end, by all that has become known: `Session.Advances` says so of what a session
has sent since an earlier one.
-/

namespace ClusterObjects

theorem Kind.mem_all (kind : Kind) : kind ∈ all := by cases kind <;> decide

namespace Discovery

/-- The mapping of a kind in a list of resources. -/
def mappingIn (gvk : GroupVersionKind) (value : Json) : Except Error Mapping := do
  let list ← decodedOr (ResourceList.ofJson? value)
  match list.mapping? gvk.kind with
  | some mapping => return mapping
  | none => .error (.api .unknownKind)

theorem asks_ask (gvk : GroupVersionKind) :
    (ask gvk).Asks (request? gvk) (fun request reply ↦ reply.value request >>= mappingIn gvk)
      .badAddress := by
  refine (Exchange.asks_call _ _).bind fun value session ↦ ?_
  unfold mappingIn
  rw [Exchange.run_bind, Exchange.ends_decoded _ session]
  cases decodedOr (ResourceList.ofJson? value) with
  | error error => rfl
  | ok list =>
    change (match list.mapping? gvk.kind with
      | some mapping => (return mapping : Exchange Mapping)
      | none => Exchange.failApi .unknownKind).run.run session = (match list.mapping? gvk.kind with
        | some mapping => .ok mapping
        | none => .error (.api .unknownKind), session)
    cases list.mapping? gvk.kind <;> rfl

end Discovery

namespace Session

variable {session : Session} {gvk : GroupVersionKind} {mapping : Mapping}

/-- The session with a mapping learned. -/
def learned (session : Session) (gvk : GroupVersionKind) (mapping : Mapping) : Session :=
  ((learn gvk mapping).run session).2

theorem run_adapt {α : Type} (f : Error → Error) (action : Exchange α) (session : Session) :
    (ExceptT.adapt f action : Exchange α).run.run session =
      match action.run.run session with
      | (.ok value, after) => (.ok value, after)
      | (.error error, after) => (.error (f error), after) := by
  change (Except.mapError f <$> action.run).run session = _
  rw [StateT.run_map]
  rcases action.run.run session with ⟨result, after⟩
  cases result <;> rfl

/-- A kind that is not known is asked for, and a found one is learned. -/
theorem run_mapping (gvk : GroupVersionKind) (session : Session) :
    (Session.mapping gvk).run.run session =
      match session.learned? gvk with
      | some mapping => (.ok mapping, session)
      | none =>
        match (Discovery.ask gvk).run.run session with
        | (.ok mapping, after) => (.ok mapping, after.learned gvk mapping)
        | (.error error, after) => (.error (Discovery.wrapError gvk error), after) := by
  let lookUp : Exchange Mapping := do
    let mapping ← ExceptT.adapt (Discovery.wrapError gvk) (Discovery.ask gvk)
    ExceptT.lift (learn gvk mapping)
    return mapping
  have hrun := Exchange.run_bind (getThe Session) (fun known ↦ match known.learned? gvk with
    | some mapping => (return mapping : Exchange Mapping)
    | none => lookUp) session
  refine hrun.trans ?_
  change (match session.learned? gvk with
    | some mapping => (return mapping : Exchange Mapping)
    | none => lookUp).run.run session = _
  cases session.learned? gvk with
  | some mapping => rfl
  | none =>
    dsimp only
    rw [Exchange.run_bind, run_adapt]
    rcases (Discovery.ask gvk).run.run session with ⟨result, after⟩
    cases result <;> rfl

theorem run_mapping_known (h : session.learned? gvk = some mapping) :
    (Session.mapping gvk).run.run session = (.ok mapping, session) := by
  rw [run_mapping, h]

/-! ## What is known -/

theorem learned?_learned (session : Session) (gvk other : GroupVersionKind) (mapping : Mapping) :
    (session.learned gvk mapping).learned? other =
      if other = gvk then some mapping else session.learned? other := by
  change ((gvk, mapping) :: session.mappings.filter fun known ↦ known.1 != gvk).lookup other = _
  rw [Lookup.lookup_cons, Lookup.lookup_filter_key (fun known ↦ known != gvk)]
  by_cases h : other = gvk
  · rw [if_pos h, if_pos h]
  · rw [if_neg h, if_neg h, if_pos (bne_iff_ne.2 h)]
    rfl

/-- What the earlier session knows the later one knows as well. -/
def Remembers (before after : Session) : Prop :=
  ∀ gvk mapping, before.learned? gvk = some mapping → after.learned? gvk = some mapping

namespace Remembers

theorem of_mappings_eq {before after : Session} (h : after.mappings = before.mappings) :
    Remembers before after := by
  intro gvk mapping hknown
  unfold learned?
  rw [h]
  exact hknown

theorem refl (session : Session) : Remembers session session := .of_mappings_eq rfl

theorem trans {first second third : Session} (h : Remembers first second)
    (hnext : Remembers second third) : Remembers first third :=
  fun gvk mapping hknown ↦ hnext gvk mapping (h gvk mapping hknown)

end Remembers

/-- The later session knows where a kind is served, and has sent nothing but requests that read. -/
structure Finds (gvk : GroupVersionKind) (mapping : Mapping) (before after : Session) : Prop where
  known : after.learned? gvk = some mapping
  remembers : Remembers before after
  reads : before.Extends Request.Reads after

theorem finds_of_run_mapping {before after : Session}
    (h : (Session.mapping gvk).run.run before = (.ok mapping, after)) :
    Finds gvk mapping before after := by
  have hreads := sends_mapping gvk before
  rw [h] at hreads
  rw [run_mapping] at h
  cases hknown : before.learned? gvk with
  | some known =>
    rw [hknown] at h
    cases h
    exact ⟨hknown, .refl before, hreads⟩
  | none =>
    have hkept := Exchange.Asks.mappings_eq (Discovery.asks_ask gvk) before
    rw [hknown] at h
    dsimp only at h
    rcases hasked : (Discovery.ask gvk).run.run before with ⟨result, between⟩
    rw [hasked] at h hkept
    cases result with
    | error error => cases h
    | ok found =>
      cases h
      refine ⟨?_, ?_, hreads⟩
      · rw [learned?_learned, if_pos rfl]
      · intro other place hother
        have hne : other ≠ gvk := by
          rintro rfl
          cases hknown.symm.trans hother
        rw [learned?_learned, if_neg hne]
        exact Remembers.of_mappings_eq hkept other place hother

theorem remembers_mapping (gvk : GroupVersionKind) (before : Session) :
    before.Remembers ((Session.mapping gvk).run.run before).2 := by
  rcases hrun : (Session.mapping gvk).run.run before with ⟨result, after⟩
  cases result with
  | ok mapping => exact (finds_of_run_mapping hrun).remembers
  | error error =>
    rw [run_mapping] at hrun
    cases hknown : before.learned? gvk with
    | some known =>
      rw [hknown] at hrun
      cases hrun
    | none =>
      have hkept := Exchange.Asks.mappings_eq (Discovery.asks_ask gvk) before
      rw [hknown] at hrun
      dsimp only at hrun
      rcases hasked : (Discovery.ask gvk).run.run before with ⟨answer, between⟩
      rw [hasked] at hrun hkept
      cases answer with
      | ok found => cases hrun
      | error cause =>
        cases hrun
        exact .of_mappings_eq hkept

/-! ## What is sent in the light of what is known -/

/-- The later session knows what the earlier one knew, and what it has sent since has a property in
the light of what is known then or at any later time. -/
structure Advances (P : Session → Request → Prop) (before after : Session) : Prop where
  remembers : before.Remembers after
  sent : ∀ known, after.Remembers known → before.Extends (P known) after

namespace Advances

variable {P Q : Session → Request → Prop}

theorem refl (session : Session) : Advances P session session := ⟨.refl session, fun _ _ ↦ .refl _⟩

theorem trans {first second third : Session} (h : Advances P first second)
    (hnext : Advances P second third) : Advances P first third where
  remembers := h.remembers.trans hnext.remembers
  sent known hknown :=
    (h.sent known (hnext.remembers.trans hknown)).trans (hnext.sent known hknown)

instance : Std.Refl (Advances P) := ⟨.refl⟩

instance : Trans (Advances P) (Advances P) (Advances P) := ⟨.trans⟩

theorem mono {before after : Session} (h : Advances P before after)
    (himp : ∀ known request, P known request → Q known request) : Advances Q before after :=
  ⟨h.remembers, fun known hknown ↦ (h.sent known hknown).mono (himp known)⟩

/-- In the end what is known is what is known to the last session. -/
theorem extends_self {before after : Session} (h : Advances P before after) :
    before.Extends (P after) after := h.sent after (.refl after)

end Advances

end Session

/-- An exchange of one request is judged by the request. -/
theorem Exchange.Asks.advances {α : Type} {action : Exchange α} {request? : Option Request}
    {meaning : Request → Reply → Except Error α} {unbuilt : ApiError}
    {P : Session → Request → Prop} (h : action.Asks request? meaning unbuilt) (before : Session)
    (hrequest : ∀ known request, before.Remembers known → request? = some request →
      P known request) : before.Advances P (action.run.run before).2 := by
  have hkept : before.Remembers (action.run.run before).2 :=
    .of_mappings_eq (Exchange.Asks.mappings_eq h before)
  refine ⟨hkept, fun known hknown ↦ ?_⟩
  exact h.sends (fun request ↦ hrequest known request (hkept.trans hknown)) before

end ClusterObjects
