import ClusterObjects.Proofs.Dynamic.Manifest
import ClusterObjects.Proofs.Handler.History

/-!
# Deletions follow the histories of handlers

The last word on force that a handler was told decides the grace period of its deletions, and the
last word on propagation, a dry run among them, decides their policy, except for the kinds that have
a policy of their own. This holds of handlers of both kinds, of every target and of every object of
a manifest.
-/

namespace ClusterObjects

/-! ## What a deletion sends -/

namespace Endpoint

theorem get?_deleteBody_grace (params : DeleteParams) :
    (deleteBody params).get? "gracePeriodSeconds" =
      params.gracePeriodSeconds.map fun seconds ↦ .int seconds := by
  unfold deleteBody
  cases params.dryRun <;> cases params.gracePeriodSeconds <;> cases params.propagation <;> rfl

theorem get?_deleteBody_policy (params : DeleteParams) :
    (deleteBody params).get? "propagationPolicy" =
      params.propagation.map fun policy ↦ .str policy.name := by
  unfold deleteBody
  cases params.dryRun <;> cases params.gracePeriodSeconds <;> cases params.propagation <;> rfl

end Endpoint

/-- A deletion of an object of a kind, the way that a history asks for. -/
structure Request.DeletesBy (history : History) (kind : String) (request : Request) : Prop where
  method : request.method = .delete
  body : ∃ body, request.body = some body ∧
    body.get? "gracePeriodSeconds" = (history.grace?.map fun seconds ↦ .int seconds) ∧
    body.get? "propagationPolicy" =
      (history.policyFor? kind).map fun policy ↦ .str policy.name

theorem Request.deletesBy_of_deleteRequest? {endpoint : Endpoint} {name kind : String}
    {params : DeleteParams} {request : Request} {history : History}
    (hgrace : params.gracePeriodSeconds = history.grace?)
    (hpolicy : params.propagation = history.policyFor? kind)
    (h : endpoint.deleteRequest? name params = some request) : request.DeletesBy history kind := by
  obtain ⟨path, -, hbuild⟩ := Option.bind_eq_some_iff.mp h
  obtain ⟨hmethod, -, hbody⟩ := Request.build?_eq hbuild
  refine ⟨hmethod, _, hbody, ?_, ?_⟩
  · rw [Endpoint.get?_deleteBody_grace, hgrace]
  · rw [Endpoint.get?_deleteBody_policy, hpolicy]

/-- What is sent to delete an object, of a kind out of some: requests that read, and then the one
deletion, unless something has failed before it. -/
inductive Deletion (history : History) (kinds : String → Prop) :
    List Request → Except Error Unit → Prop where
  | failed {lookups : List Request} {error : Error}
      (hlookups : ∀ request ∈ lookups, request.Reads) :
      Deletion history kinds lookups (.error error)
  | sent {lookups : List Request} {last : Request} {kind : String} {result : Except Error Unit}
      (hlookups : ∀ request ∈ lookups, request.Reads) (hkind : kinds kind)
      (hlast : last.DeletesBy history kind) : Deletion history kinds (lookups ++ [last]) result

/-- Whatever is deleted on the way is deleted as the history asks for. -/
theorem Deletion.deletesBy {history : History} {kinds : String → Prop} {sent : List Request}
    {result : Except Error Unit} (h : Deletion history kinds sent result) {request : Request}
    (hmem : request ∈ sent) (hmethod : request.method = .delete) :
    ∃ kind, kinds kind ∧ request.DeletesBy history kind := by
  have hnone {lookups : List Request} (hlookups : ∀ request ∈ lookups, request.Reads) :
      request ∉ lookups := fun hmem ↦ nomatch (hlookups request hmem).symm.trans hmethod
  cases h with
  | failed hlookups => exact absurd hmem (hnone hlookups)
  | @sent lookups last kind _ hlookups hkind hlast =>
    rcases List.mem_append.mp hmem with hmem | hmem
    · exact absurd hmem (hnone hlookups)
    · obtain rfl := List.mem_singleton.mp hmem
      exact ⟨kind, hkind, hlast⟩

/-- What is sent to delete objects one after another, until one of them fails. -/
inductive Deletions (history : History) (kindsOf : Object → String → Prop) :
    List Object → List Request → Except Error Unit → Prop where
  | done : Deletions history kindsOf [] [] (.ok ())
  | stopped {object : Object} {rest : List Object} {sent : List Request} {error : Error}
      (hdeletion : Deletion history (kindsOf object) sent (.error error)) :
      Deletions history kindsOf (object :: rest) sent (.error error)
  | went {object : Object} {rest : List Object} {sent later : List Request}
      {result : Except Error Unit} (hdeletion : Deletion history (kindsOf object) sent (.ok ()))
      (hrest : Deletions history kindsOf rest later result) :
      Deletions history kindsOf (object :: rest) (sent ++ later) result

/-- An endpoint that was found with requests that read is asked for the deletion at last. -/
theorem Deletion.of_asks {endpoint : Endpoint} {name kind : String} {params : DeleteParams}
    {history : History} {kinds : String → Prop} {before between : Session}
    (hgrace : params.gracePeriodSeconds = history.grace?)
    (hpolicy : params.propagation = history.policyFor? kind) (hkind : kinds kind)
    (hreads : before.Extends Request.Reads between) :
    let run := (endpoint.delete name params).run.run between
    ∃ sent, run.2.requests = before.requests ++ sent ∧ Deletion history kinds sent run.1 := by
  intro run
  obtain ⟨lookups, hlookups⟩ := hreads.exists_part
  have hall := hreads.forall_mem hlookups
  have hrun : run = _ := endpoint.asks_delete name params between
  rw [hrun]
  cases hrequest : endpoint.deleteRequest? name params with
  | none => exact ⟨lookups, hlookups, .failed hall⟩
  | some request =>
    refine ⟨lookups ++ [request], ?_, .sent hall hkind ?_⟩
    · rw [Session.requests_asked, hlookups, List.append_assoc]
    · exact Request.deletesBy_of_deleteRequest? hgrace hpolicy hrequest

/-! ## Handlers of one kind -/

namespace Handler

variable {handler : Handler} {history : History}

theorem forcedPropagation_eq (kind : Kind) :
    forcedPropagation kind =
      if kind.name = "Job" ∨ kind.name = "CronJob" then some .background else none := by
  cases kind <;> decide

theorem deleteParams_of_follows (h : handler.options.Follows history) :
    handler.deleteParams.gracePeriodSeconds = history.grace? ∧
      handler.deleteParams.propagation = history.policyFor? handler.kind.name := by
  unfold deleteParams History.policyFor?
  rw [forcedPropagation_eq]
  split_ifs
  · exact ⟨h.grace, rfl⟩
  · exact ⟨h.grace, h.policy⟩

theorem deletion_delete (h : handler.options.Follows history) (target : Input)
    (before : Session) :
    let run := (handler.delete target).run.run before
    ∃ sent, run.2.requests = before.requests ++ sent ∧
      Deletion history (· = handler.kind.name) sent run.1 := by
  intro run
  have hrun : run = _ := Exchange.run_lift_bind (handler.resolve target) _ before
  rw [hrun]
  rcases handler.resolve target with error | ⟨namespaceName, name⟩
  · exact ⟨[], (List.append_nil _).symm, .failed nofun⟩
  · obtain ⟨hgrace, hpolicy⟩ := deleteParams_of_follows h
    exact Deletion.of_asks hgrace hpolicy rfl (.refl before)

end Handler

/-! ## Handlers of any kind -/

theorem Exchange.Gives.lift_bind {α β : Type} {S : β → Prop} {result : Except Error α}
    {next : α → Exchange β} (hnext : ∀ value, result = .ok value → (next value).Gives S) :
    (Exchange.lift result >>= next).Gives S := by
  intro session found after hrun
  rw [Exchange.run_lift_bind] at hrun
  cases result with
  | error error => exact nomatch congrArg Prod.fst hrun
  | ok value => exact hnext value rfl session found after hrun

/-- The kind that an object states. -/
def Object.States (object : Object) (kind : String) : Prop :=
  ∃ types, object.types = some types ∧ types.kind = kind

theorem Object.states_of_gvk {object : Object} {gvk : GroupVersionKind}
    (h : object.gvk = .ok gvk) : object.States gvk.kind := by
  unfold Object.gvk at h
  rcases htypes : object.types with _ | types
  · rw [htypes] at h
    cases h
  · rw [htypes] at h
    dsimp only at h
    split at h
    · cases h
    · obtain rfl := Except.ok.inj h
      exact ⟨types, htypes, rfl⟩

namespace DynamicHandler

variable {handler : DynamicHandler} {history : History}

/-- The kind of what an input addresses: the handler's own for a name, and else the stated one. -/
def Addressed (handler : DynamicHandler) (input : Input) (kind : String) : Prop :=
  match input with
  | .name _ => ∃ gvk, handler.gvk = some gvk ∧ gvk.kind = kind
  | input => ∃ found, object input = .ok found ∧ found.States kind

theorem reads_endpointOf (handler : DynamicHandler) (gvk : GroupVersionKind)
    (namespace? : Option String) : (handler.endpointOf gvk namespace?).Sends Request.Reads :=
  .bind (Session.sends_mapping gvk) fun _ ↦ .pure _

theorem reads_locateObject (handler : DynamicHandler) (object : Object) :
    (handler.locateObject object).Sends Request.Reads := by
  apply Exchange.Sends.bind (.lift _)
  intro name
  apply Exchange.Sends.bind (.lift _)
  intro gvk
  exact .bind (handler.reads_endpointOf gvk _) fun _ ↦ .pure _

theorem reads_locate (handler : DynamicHandler) (input : Input) :
    (handler.locate input).Sends Request.Reads := by
  unfold locate
  split
  · apply Exchange.Sends.bind (.lift _)
    intro gvk
    exact .bind (handler.reads_endpointOf gvk _) fun _ ↦ .pure _
  · exact .bind (.lift _) handler.reads_locateObject

theorem gives_stated_locateObject (handler : DynamicHandler) (object : Object) :
    (handler.locateObject object).Gives fun located ↦ object.States located.1.kind := by
  apply Exchange.Gives.bind
  intro name
  apply Exchange.Gives.lift_bind
  intro gvk hgvk
  exact .bind fun _ ↦ .pure (Object.states_of_gvk hgvk)

theorem gives_addressed_locate (handler : DynamicHandler) (input : Input) :
    (handler.locate input).Gives fun located ↦ handler.Addressed input located.1.kind := by
  cases input with
  | name name =>
    apply Exchange.Gives.lift_bind
    intro gvk hknown
    have hgvk : handler.gvk = some gvk := by
      unfold knownKind at hknown
      rcases hgvk : handler.gvk with _ | own
      · rw [hgvk] at hknown
        cases hknown
      · rw [hgvk] at hknown
        exact congrArg some (Except.ok.inj hknown)
    exact .bind fun _ ↦ .pure ⟨gvk, hgvk, rfl⟩
  | file _ | bytes _ | object _ | map _ =>
    apply Exchange.Gives.lift_bind
    intro found hfound session located after hrun
    exact ⟨found, hfound, handler.gives_stated_locateObject found session located after hrun⟩

theorem deleteParams_of_follows (h : handler.options.Follows history) (kind : String) :
    (handler.deleteParams kind).gracePeriodSeconds = history.grace? ∧
      (handler.deleteParams kind).propagation = history.policyFor? kind := by
  have hkinds : backgroundKinds.contains kind = true ↔ kind = "Job" ∨ kind = "CronJob" := by
    simp [backgroundKinds]
  unfold deleteParams History.policyFor?
  simp only [hkinds]
  split_ifs
  · exact ⟨h.grace, rfl⟩
  · exact ⟨h.grace, h.policy⟩

theorem deletion_delete (h : handler.options.Follows history) (target : Input)
    (before : Session) :
    let run := (handler.delete target).run.run before
    ∃ sent, run.2.requests = before.requests ++ sent ∧
      Deletion history (handler.Addressed target) sent run.1 := by
  intro run
  have hreads := handler.reads_locate target before
  have hgives := handler.gives_addressed_locate target before
  have hrun : run = _ := Exchange.run_bind (handler.locate target) _ before
  rw [hrun]
  rcases hlocate : (handler.locate target).run.run before with ⟨located, between⟩
  rw [hlocate] at hreads
  rcases located with error | ⟨gvk, endpoint, name⟩
  · obtain ⟨lookups, hlookups⟩ := hreads.exists_part
    exact ⟨lookups, hlookups, .failed (hreads.forall_mem hlookups)⟩
  · obtain ⟨hgrace, hpolicy⟩ := deleteParams_of_follows h gvk.kind
    exact Deletion.of_asks hgrace hpolicy (hgives _ _ hlocate) hreads

theorem deletions_deleteAll (h : handler.options.Follows history) (objects : List Object)
    (before : Session) :
    let run := (handler.deleteAll objects).run.run before
    ∃ sent, run.2.requests = before.requests ++ sent ∧
      Deletions history (fun object ↦ handler.Addressed (.object object)) objects sent run.1 := by
  induction objects generalizing before with
  | nil => exact ⟨[], (List.append_nil _).symm, .done⟩
  | cons object rest ih =>
    intro run
    obtain ⟨sent, hsent, hdeletion⟩ := deletion_delete h (.object object) before
    have hrun : run = _ := Exchange.run_bind (handler.delete (.object object)) _ before
    rw [hrun]
    rcases hfirst : (handler.delete (.object object)).run.run before with ⟨result, between⟩
    rw [hfirst] at hsent hdeletion
    rcases result with error | ⟨⟩
    · exact ⟨sent, hsent, .stopped hdeletion⟩
    · obtain ⟨later, hlater, hrest⟩ := ih between
      refine ⟨sent ++ later, ?_, .went hdeletion hrest⟩
      dsimp only at hlater ⊢
      rw [hlater, hsent, List.append_assoc]

/-- A manifest that cannot be decoded deletes nothing. -/
theorem deletions_deleteManifest (h : handler.options.Follows history) (data : ByteArray)
    (before : Session) :
    let run := (handler.deleteManifest data).run.run before
    match Manifest.objects data with
    | .error error => run = (.error error, before)
    | .ok objects => ∃ sent, run.2.requests = before.requests ++ sent ∧
        Deletions history (fun object ↦ handler.Addressed (.object object)) objects.reverse sent
          run.1 := by
  intro run
  rcases hobjects : Manifest.objects data with error | objects
  · exact (run_manifest_of_error hobjects before before).2
  · have hrun : run = _ := run_deleteManifest hobjects before
    rw [hrun]
    exact deletions_deleteAll h objects.reverse before

end DynamicHandler

/-! ## Fleets -/

/-- The kind of what a target addresses. -/
def AnyHandler.Addressed : AnyHandler → Input → String → Prop
  | typed handler, _, kind => kind = handler.kind.name
  | dynamic handler, target, kind => handler.Addressed target kind

namespace Fleet

/-- After any orders to a handler and to the copies made of it and of its copies, each of them
deletes as its own history asks for, whatever it deletes and whatever the server answers, and so
does a handler of any kind with every object of a manifest. Nothing that the other handlers are told
later changes a handler or its history. -/
theorem deletions_follow_history {origin : AnyHandler} {told : History} (h : origin.Begins told)
    (session : Session) (orders : List (Nat × FleetOrder)) :
    let fleet := (Fleet.mk [origin] session).run orders
    let histories := History.run [told] orders
    fleet.handlers.length = histories.length ∧
      ∀ index handler history, fleet.handlers[index]? = some handler →
        histories[index]? = some history →
        (∀ target before,
          let run := (handler.perform (.delete target)).run.run before
          ∃ sent, run.2.requests = before.requests ++ sent ∧
            Deletion history (handler.Addressed target) sent run.1) ∧
        (∀ own, handler = .dynamic own → ∀ data before,
          let run := (handler.perform (.deleteManifest data)).run.run before
          match Manifest.objects data with
          | .error error => run = (.error error, before)
          | .ok objects => ∃ sent, run.2.requests = before.requests ++ sent ∧
              Deletions history (fun object ↦ handler.Addressed (.object object))
                objects.reverse sent run.1) ∧
        ∀ later, (∀ change, (index, .change change) ∉ later) →
          (fleet.run later).handlers[index]? = some handler ∧
            (History.run histories later)[index]? = some history := by
  intro fleet histories
  have hfollows : List.Forall₂ AnyHandler.Follows fleet.handlers histories := by
    rw [handlers_run]
    exact forall₂_tellAll (fun _ _ ↦ AnyHandler.Follows.copy) (fun _ _ ↦ AnyHandler.Follows.change)
      (.cons (AnyHandler.follows_of_begins h) .nil) orders
  refine ⟨hfollows.length_eq, fun index handler history hhandler hhistory ↦ ?_⟩
  have hown : handler.Follows history := by
    obtain ⟨hindex, rfl⟩ := List.getElem?_eq_some_iff.mp hhandler
    obtain ⟨hbound, rfl⟩ := List.getElem?_eq_some_iff.mp hhistory
    exact hfollows.get hindex hbound
  refine ⟨?_, ?_, fun later hlater ↦ ⟨?_, getElem?_tellAll hhistory hlater⟩⟩
  · cases handler with
    | typed handler => exact Handler.deletion_delete hown
    | dynamic handler => exact DynamicHandler.deletion_delete hown
  · rintro own rfl
    exact DynamicHandler.deletions_deleteManifest hown
  · rw [handlers_run]
    exact getElem?_tellAll hhandler hlater

/-- A copy for dry runs was made between two words on force: it keeps the first one, and has the
policy of dry runs. -/
theorem deletions_follow_history_copy :
    let origin := AnyHandler.typed (.new .configMap "apps")
    let fleet := (Fleet.mk [origin] { script := [] }).run
      [(0, .change (.forceDelete true)), (0, .copy .dryRun), (0, .change (.forceDelete false)),
        (0, .change (.propagation "Orphan"))]
    ∃ handler, fleet.handlers[1]? = some handler ∧
      ∃ request,
        ((handler.perform (.delete (.name "settings"))).run.run { script := [] }).2.requests =
          [request] ∧
        request.DeletesBy [.dryRun, .change (.forceDelete true)] "ConfigMap" := by
  intro origin fleet
  obtain ⟨-, hall⟩ := deletions_follow_history (.typed .configMap "apps") { script := [] }
    [(0, .change (.forceDelete true)), (0, .copy .dryRun), (0, .change (.forceDelete false)),
      (0, .change (.propagation "Orphan"))]
  obtain ⟨hdeletes, -⟩ := hall 1 _ _ rfl rfl
  obtain ⟨sent, hsent, hdeletion⟩ := hdeletes (.name "settings") { script := [] }
  have hone : ∃ request, sent = [request] ∧ request.method = .delete := ⟨_, hsent.symm, rfl⟩
  obtain ⟨request, rfl, hmethod⟩ := hone
  obtain ⟨kind, rfl, hrequest⟩ := hdeletion.deletesBy (List.mem_singleton_self _) hmethod
  exact ⟨_, rfl, request, hsent, hrequest⟩

end Fleet

end ClusterObjects
