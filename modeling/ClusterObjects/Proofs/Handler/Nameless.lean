import ClusterObjects.Proofs.Api.Mapper
import ClusterObjects.Proofs.Dynamic.Write
import ClusterObjects.Proofs.Handler.Fleet
import ClusterObjects.Proofs.Handler.Watch

/-!
# Objects without a name

What is done to one object that is there already needs its name. A handler of one kind refuses an
object without a name before it sends anything, and takes an empty name for none; so does a handler
of any kind where it deletes, gets or patches. Where that updates or watches an object, an empty
name is overlooked: it looks the kind up, begins to watch even, and fails only on the request that
cannot be built for the object.
-/

namespace ClusterObjects

/-- An operation on one object that has to be there already. -/
inductive NamedOrder where
  | update (input : Input)
  | delete (target : Input)
  | get (target : Input)
  | watch (target : Input)
  | patch (existing : Object) (input : Input) (type : Option PatchType)

def failure? {α : Type} : Except Error α → Option Error
  | .ok _ => none
  | .error error => some error

def WatchEnd.failure? : WatchEnd → Option Error
  | failed error => some error
  | waiting => none

/-- How an exchange fails, if it does, and the session after it. -/
def Exchange.failing {α : Type} (action : Exchange α) (session : Session) :
    Option Error × Session :=
  (failure? (action.run.run session).1, (action.run.run session).2)

/-- How a watch fails, if it does, and the session after it. -/
def WatchOrder.failing (order : WatchOrder) (session : Session) : Option Error × Session :=
  ((order.perform.run session).1.2.failure?, (order.perform.run session).2)

/-- How an operation fails, if it does, and the session after it. -/
def AnyHandler.attempt (session : Session) : AnyHandler → NamedOrder → Option Error × Session
  | typed handler, .update input => (handler.update input).failing session
  | typed handler, .delete target => (handler.delete target).failing session
  | typed handler, .get target => (handler.get target).failing session
  | typed handler, .watch target => (WatchOrder.ofTarget handler target).failing session
  | typed handler, .patch existing input type =>
    (handler.patch existing input (type.getD default)).failing session
  | dynamic handler, .update input => (handler.update input).failing session
  | dynamic handler, .delete target => (handler.delete target).failing session
  | dynamic handler, .get target => (handler.get target).failing session
  | dynamic handler, .watch target => (WatchOrder.dynamicOfTarget handler target).failing session
  | dynamic handler, .patch existing input type =>
    (handler.patch existing input type).failing session

namespace NamedOrder

/-- The object that an operation is about. -/
def object : AnyHandler → NamedOrder → Except Error Object
  | .typed handler, update input | .typed handler, delete input | .typed handler, get input
  | .typed handler, watch input => handler.object input
  | .dynamic _, update input | .dynamic _, delete input | .dynamic _, get input
  | .dynamic _, watch input => DynamicHandler.object input
  | _, patch existing _ _ => .ok existing

/-- The operation takes an empty name for a name. -/
def Overlooks (object : Object) : AnyHandler → NamedOrder → Prop
  | .dynamic _, update _ | .dynamic _, watch _ => object.name? = some ""
  | _, _ => False

end NamedOrder

variable {object : Object} {session : Session}

theorem Object.requiredName_of_nameless (h : object.ownName? = none) :
    object.requiredName = .error .missingName := by
  rw [requiredName_eq, h]

theorem Exchange.failing_lift_bind {α β : Type} (result : Except Error α) (next : α → Exchange β)
    (session : Session) :
    (Exchange.lift result >>= next).failing session =
      match result with
      | .error error => (some error, session)
      | .ok value => (next value).failing session := by
  unfold failing
  rw [run_lift_bind]
  cases result <;> rfl

theorem Exchange.failing_bind {α β : Type} {action : Exchange α} {error : Error}
    {session after : Session} (h : action.run.run session = (.error error, after))
    (next : α → Exchange β) : (action >>= next).failing session = (some error, after) := by
  unfold failing
  rw [run_bind, h]
  rfl

/-- A watch fails when it cannot be prepared, and else as the watch that was prepared does. -/
theorem WatchOrder.failing_eq (order : WatchOrder) (session : Session) :
    order.failing session =
      match order.prepare.run.run session with
      | (.error error, ready) => (some error, ready)
      | (.ok sub, ready) => ((sub.watch.run ready).1.2.failure?, (sub.watch.run ready).2) := by
  unfold failing
  rw [run_perform]
  rcases order.prepare.run.run session with ⟨result, ready⟩
  cases result <;> dsimp only [WatchEnd.failure?]

/-! ## Handlers of one kind -/

namespace Handler

variable {handler : Handler} {input : Input}

theorem resolve_of_nameless (hobject : handler.object input = .ok object)
    (hname : object.ownName? = none) : handler.resolve input = .error .missingName := by
  rw [resolve_eq]
  cases input with
  | name given => cases hobject
  | file _ | bytes _ | object _ | map _ =>
    dsimp only
    rw [hobject]
    dsimp only
    rw [hname]

/-- A handler of one kind refuses an object without a name. -/
theorem attempt_of_nameless {order : NamedOrder}
    (hobject : order.object (.typed handler) = .ok object) (hname : object.ownName? = none) :
    (AnyHandler.typed handler).attempt session order = (some .missingName, session) := by
  have hrequired := Object.requiredName_of_nameless hname
  cases order with
  | update input =>
    have hread : handler.object input = .ok object := hobject
    refine (Exchange.failing_lift_bind (handler.object input) handler.updateObject session).trans ?_
    rw [hread]
    refine (Exchange.failing_lift_bind object.requiredName _ session).trans ?_
    rw [hrequired]
  | delete target =>
    refine (Exchange.failing_lift_bind (handler.resolve target) _ session).trans ?_
    rw [resolve_of_nameless hobject hname]
  | get target =>
    refine (Exchange.failing_lift_bind (handler.resolve target) _ session).trans ?_
    rw [resolve_of_nameless hobject hname]
  | watch target =>
    refine ((WatchOrder.ofTarget handler target).failing_eq session).trans ?_
    rw [WatchOrder.prepare, Exchange.run_lift_bind, resolve_of_nameless hobject hname]
  | patch existing input type =>
    obtain rfl := Except.ok.inj hobject
    refine (Exchange.failing_lift_bind existing.requiredName _ session).trans ?_
    rw [hrequired]

end Handler

/-! ## Handlers of any kind -/

theorem Session.exists_discovery_of_run_mapping {gvk : GroupVersionKind} {before after : Session}
    {error : Error} (h : (Session.mapping gvk).run.run before = (.error error, after)) :
    ∃ cause, error = .discovery gvk.apiVersion gvk.kind cause := by
  rw [run_mapping] at h
  cases hknown : before.learned? gvk with
  | some mapping =>
    rw [hknown] at h
    cases h
  | none =>
    rw [hknown, Discovery.asks_ask] at h
    cases hrequest : Discovery.request? gvk with
    | none =>
      rw [hrequest] at h
      cases h
      exact ⟨_, rfl⟩
    | some request =>
      rw [hrequest] at h
      dsimp only at h
      cases hmeaning : before.next.value request >>= Discovery.mappingIn gvk with
      | ok found =>
        rw [hmeaning] at h
        cases h
      | error cause =>
        rw [hmeaning] at h
        cases h
        exact Discovery.exists_wrapError_eq hmeaning

/-- A watch for which it cannot be asked whether the object exists fails in its first connection. -/
theorem Subscription.exists_failed_of_unaskable {sub : Subscription} (h : sub.question? = none)
    (session : Session) : ∃ cause, (sub.watch.run session).1.2 = .failed (.api cause) := by
  rw [run_watch, run_watchFor_succ]
  rcases sub.connects_or_fails session with ⟨connection, after, hconnects⟩ | ⟨error, after, hfails⟩
  · cases h.symm.trans hconnects.question
  · rw [hfails.run_watchOnce]
    cases hfails with
    | unopenable _ | unaskable _ _ _ => exact ⟨_, rfl⟩
    | unopened _ hstream =>
      cases hreply : session.next with
      | answer status body staysOpen =>
        rw [hreply] at hstream
        cases hstream
      | abort | silence =>
        rw [hreply] at hstream
        cases hstream
        exact ⟨_, rfl⟩
    | unanswered _ _ hquestion _ => cases h.symm.trans hquestion

namespace DynamicHandler

variable {handler : DynamicHandler} {input : Input} {gvk : GroupVersionKind}

theorem locateObject_of_nameless (hname : object.ownName? = none) (session : Session) :
    (handler.locateObject object).run.run session = (.error .missingName, session) := by
  unfold locateObject
  rw [Exchange.run_lift_bind, Object.requiredName_of_nameless hname]

theorem locate_of_nameless (hobject : DynamicHandler.object input = .ok object)
    (hname : object.ownName? = none) (session : Session) :
    (handler.locate input).run.run session = (.error .missingName, session) := by
  have hlocate : (Exchange.lift (DynamicHandler.object input) >>= handler.locateObject).run.run
      session = (.error .missingName, session) := by
    rw [Exchange.run_lift_bind, hobject]
    exact locateObject_of_nameless hname session
  cases input with
  | name given => cases hobject
  | file _ | bytes _ | object _ | map _ => exact hlocate

theorem name?_of_nameless (h : object.ownName? = none) :
    object.name? = none ∨ object.name? = some "" := by
  cases hname : object.name? with
  | none => exact .inl rfl
  | some name =>
    have hempty : nonEmpty? name = none := by
      unfold Object.ownName? at h
      rwa [hname] at h
    exact .inr (congrArg some (nonEmpty?_eq_none_iff.1 hempty))

/-- A failure that does not say that the name is missing, after requests that read. -/
def FailsLate (session : Session) (outcome : Option Error × Session) : Prop :=
  (∃ error, outcome.1 = some error ∧ error ≠ .missingName) ∧
    session.Extends Request.Reads outcome.2

/-- An update with an empty name looks the kind up. The request for the object cannot be built. -/
theorem failsLate_updateObject (hgvk : object.gvk = .ok gvk) (hname : object.name? = some "")
    (handler : DynamicHandler) (session : Session) :
    FailsLate session ((handler.updateObject object).failing session) := by
  have hreads := Session.sends_mapping gvk session
  unfold Exchange.failing updateObject
  rw [hname]
  dsimp only
  rw [run_gvk_bind, hgvk]
  dsimp only
  rcases hmapping : (Session.mapping gvk).run.run session with ⟨result, after⟩
  rw [hmapping] at hreads
  cases result with
  | error error =>
    obtain ⟨cause, rfl⟩ := Session.exists_discovery_of_run_mapping hmapping
    exact ⟨⟨_, rfl, nofun⟩, hreads⟩
  | ok mapping =>
    dsimp only
    rw [(handler.endpoint mapping object.namespace?).asks_replace "" handler.options.post
      object.withoutServerFields after]
    exact ⟨⟨_, rfl, nofun⟩, hreads⟩

theorem watcherOfTarget_of_object {target : Input}
    (hobject : DynamicHandler.object target = .ok object) :
    handler.watcherOfTarget target = handler.watcherOf object := by
  have hwatcher : (DynamicHandler.object target >>= handler.watcherOf) =
      handler.watcherOf object := by
    rw [hobject]
    rfl
  cases target with
  | name given => cases hobject
  | file _ | bytes _ | object _ | map _ => exact hwatcher

theorem exists_watcherOf (hgvk : object.gvk = .ok gvk) {name : String}
    (hname : object.name? = some name) (handler : DynamicHandler) :
    ∃ watcher, handler.watcherOf object = .ok (watcher, name) ∧ watcher.gvk = some gvk := by
  unfold watcherOf
  rw [hgvk, hname]
  dsimp only [bind, Except.bind]
  cases object.namespace?.bind nonEmpty? with
  | none => exact ⟨_, rfl, rfl⟩
  | some own => exact ⟨_, rfl, rfl⟩

theorem run_prepare_dynamicOfTarget {target : Input} {watcher : DynamicHandler} {name : String}
    (hobject : DynamicHandler.object target = .ok object)
    (hwatcher : handler.watcherOf object = .ok (watcher, name)) (hkind : watcher.gvk = some gvk)
    (session : Session) :
    (WatchOrder.dynamicOfTarget handler target).prepare.run.run session =
      match (Session.mapping gvk).run.run session with
      | (.error error, after) => (.error error, after)
      | (.ok mapping, after) =>
        (.ok (.ofName (watcher.endpoint mapping (some watcher.namespaceName))
          watcher.options.watchParams name), after) := by
  have hown : watcher.ownEndpoint = watcher.endpointOf gvk (some watcher.namespaceName) := by
    unfold ownEndpoint knownKind
    rw [hkind]
    rfl
  rw [WatchOrder.prepare, Exchange.run_lift_bind, watcherOfTarget_of_object hobject, hwatcher]
  dsimp only
  rw [hown]
  exact watcher.run_endpointOf_bind gvk (some watcher.namespaceName) _ session

/-- A watch with an empty name looks the kind up and opens a stream. The request for the object
cannot be built. -/
theorem failsLate_watch {target : Input} (hobject : DynamicHandler.object target = .ok object)
    (hgvk : object.gvk = .ok gvk) (hname : object.name? = some "") (handler : DynamicHandler)
    (session : Session) :
    FailsLate session ((WatchOrder.dynamicOfTarget handler target).failing session) := by
  obtain ⟨watcher, hwatcher, hkind⟩ := exists_watcherOf hgvk hname handler
  have hreads := Session.sends_mapping gvk session
  rw [WatchOrder.failing_eq, run_prepare_dynamicOfTarget hobject hwatcher hkind]
  rcases hmapping : (Session.mapping gvk).run.run session with ⟨result, after⟩
  rw [hmapping] at hreads
  cases result with
  | error error =>
    obtain ⟨cause, rfl⟩ := Session.exists_discovery_of_run_mapping hmapping
    exact ⟨⟨_, rfl, by simp⟩, hreads⟩
  | ok mapping =>
    let sub : Subscription := .ofName (watcher.endpoint mapping (some watcher.namespaceName))
      watcher.options.watchParams ""
    have hquestion : sub.question? = none := rfl
    obtain ⟨cause, hfailed⟩ := Subscription.exists_failed_of_unaskable hquestion after
    unfold FailsLate
    dsimp only
    rw [hfailed]
    exact ⟨⟨.api cause, rfl, by simp⟩, hreads.trans (sub.reads_watch after)⟩

/-- Without a name an object is refused, unless the name is there but empty and is overlooked. -/
theorem attempt_of_nameless {order : NamedOrder}
    (hobject : order.object (.dynamic handler) = .ok object) (hgvk : object.gvk = .ok gvk)
    (hname : object.ownName? = none) (session : Session) :
    (¬ order.Overlooks object (.dynamic handler) →
      (AnyHandler.dynamic handler).attempt session order = (some .missingName, session)) ∧
    (order.Overlooks object (.dynamic handler) →
      FailsLate session ((AnyHandler.dynamic handler).attempt session order)) := by
  cases order with
  | update input =>
    have hread : DynamicHandler.object input = .ok object := hobject
    have hupdate : (AnyHandler.dynamic handler).attempt session (.update input) =
        (handler.updateObject object).failing session := by
      refine (Exchange.failing_lift_bind (DynamicHandler.object input) handler.updateObject
        session).trans ?_
      rw [hread]
    rw [hupdate]
    refine ⟨fun hcounts ↦ ?_, fun hempty ↦ failsLate_updateObject hgvk hempty handler session⟩
    have hnone : object.name? = none := (name?_of_nameless hname).resolve_right hcounts
    unfold Exchange.failing updateObject
    rw [hnone]
    rfl
  | delete target =>
    exact ⟨fun _ ↦ Exchange.failing_bind (locate_of_nameless hobject hname session) _, False.elim⟩
  | get target =>
    exact ⟨fun _ ↦ Exchange.failing_bind (locate_of_nameless hobject hname session) _, False.elim⟩
  | watch target =>
    refine ⟨fun hcounts ↦ ?_, fun hempty ↦ failsLate_watch hobject hgvk hempty handler session⟩
    have hnone : object.name? = none := (name?_of_nameless hname).resolve_right hcounts
    have hwatcher : handler.watcherOf object = .error .missingName := by
      unfold watcherOf
      rw [hgvk, hnone]
      rfl
    change (WatchOrder.dynamicOfTarget handler target).failing session = _
    rw [WatchOrder.failing_eq, WatchOrder.prepare, Exchange.run_lift_bind,
      watcherOfTarget_of_object hobject, hwatcher]
  | patch existing input type =>
    obtain rfl := Except.ok.inj hobject
    exact ⟨fun _ ↦ Exchange.failing_bind (locateObject_of_nameless hname session) _, False.elim⟩

end DynamicHandler

/-- An object without a name, or with an empty one, is refused as nameless and nothing is sent. A
handler of any kind that updates or watches overlooks an empty name: the operation fails as well,
but for another reason, and after requests that read. -/
theorem AnyHandler.refuses_nameless {handler : AnyHandler} {order : NamedOrder} {object : Object}
    {gvk : GroupVersionKind} (hobject : order.object handler = .ok object)
    (hgvk : object.gvk = .ok gvk) (hname : object.ownName? = none) (session : Session) :
    (¬ order.Overlooks object handler →
      handler.attempt session order = (some .missingName, session)) ∧
    (order.Overlooks object handler →
      DynamicHandler.FailsLate session (handler.attempt session order)) := by
  cases handler with
  | typed handler =>
    refine ⟨fun _ ↦ Handler.attempt_of_nameless hobject hname, fun hempty ↦ ?_⟩
    cases order <;> cases hempty
  | dynamic handler => exact DynamicHandler.attempt_of_nameless hobject hgvk hname session

/-- A map without a name, as it is deleted by handlers of both kinds. -/
theorem AnyHandler.refuses_nameless_deletion :
    let typed := AnyHandler.typed (.new .configMap "apps")
    let dynamic := AnyHandler.dynamic (.new "apps")
    let order := NamedOrder.delete (.map [("apiVersion", .str "v1"), ("kind", .str "ConfigMap")])
    let object : Object := ⟨some ⟨"v1", "ConfigMap"⟩, [], []⟩
    let session := Session.new [] .noMore
    order.object typed = .ok object ∧ order.object dynamic = .ok object ∧
      object.gvk = .ok Kind.configMap.gvk ∧ object.ownName? = none ∧
      typed.attempt session order = (some .missingName, session) ∧
      dynamic.attempt session order = (some .missingName, session) := by
  intro typed dynamic order object session
  have htyped : order.object typed = .ok object := by decide +kernel
  have hdynamic : order.object dynamic = .ok object := by decide +kernel
  have hgvk : object.gvk = .ok Kind.configMap.gvk := by decide +kernel
  have hname : object.ownName? = none := by decide +kernel
  exact ⟨htyped, hdynamic, hgvk, hname, (refuses_nameless htyped hgvk hname session).1 nofun,
    (refuses_nameless hdynamic hgvk hname session).1 nofun⟩

/-- An empty name is overlooked: an update fails on the request for the object, and a watch opens a
stream before it does. -/
theorem AnyHandler.exists_nameless_not_refused :
    let handler := AnyHandler.dynamic (.new "apps")
    let input := Input.map [("apiVersion", .str "v1"), ("kind", .str "ConfigMap"),
      ("metadata", .obj [("name", .str "")])]
    let session := Session.new [.ofEvents []] .noMore
    (handler.attempt session (.update input)).1 = some (.api .badRequest) ∧
      (handler.attempt session (.watch input)).1 = some (.api .badRequest) ∧
      (handler.attempt session (.watch input)).2.requests.map (·.path) =
        ["/api/v1/namespaces/apps/configmaps"] := by
  decide +kernel

end ClusterObjects
