import ClusterObjects.Proofs.Watch.Run

/-!
# Watches of handlers

Handlers of both kinds offer watches by a name, by a selector and of a given object. What differs is
only what is settled before the watch begins, and `WatchOrder.prepare` is that part; from there on
every watch is a run through connections. `watch_reports` says what the runs report and how they
end.
-/

namespace ClusterObjects

/-- The watches that handlers offer. -/
inductive WatchOrder where
  | byName (handler : Handler) (name : String)
  | byLabel (handler : Handler) (selector : String)
  | byField (handler : Handler) (selector : String)
  | ofTarget (handler : Handler) (target : Input)
  | dynamicByName (handler : DynamicHandler) (name : String)
  | dynamicByLabel (handler : DynamicHandler) (selector : String)
  | dynamicOfTarget (handler : DynamicHandler) (target : Input)

/-- The handler that watches a target, and the name to watch. -/
def DynamicHandler.watcherOfTarget (handler : DynamicHandler) :
    Input → Except Error (DynamicHandler × String)
  | .name name => .ok (handler, name)
  | input => object input >>= handler.watcherOf

namespace WatchOrder

def perform : WatchOrder → StateM Session (List WatchCall × WatchEnd)
  | byName handler name => handler.watchByName name
  | byLabel handler selector => handler.watchByLabel selector
  | byField handler selector => handler.watchByField selector
  | ofTarget handler target => handler.watch target
  | dynamicByName handler name => handler.watchByName name
  | dynamicByLabel handler selector => handler.watchByLabel selector
  | dynamicOfTarget handler target => handler.watch target

/-- What is settled before the first connection. Only a kind that has to be looked up takes requests
for that. -/
def prepare : WatchOrder → Exchange Subscription
  | byName handler name => return .ofName handler.endpoint handler.options.watchParams name
  | byLabel handler selector =>
    return .ofLabel handler.endpoint handler.options.watchParams selector
  | byField handler selector =>
    return .ofField handler.endpoint handler.options.watchParams selector
  | ofTarget handler target => do
    let (namespaceName, name) ← Exchange.lift (handler.resolve target)
    return .ofName (handler.withNamespace namespaceName).endpoint handler.options.watchParams name
  | dynamicByName handler name => do
    return .ofName (← handler.ownEndpoint) handler.options.watchParams name
  | dynamicByLabel handler selector => do
    return .ofLabel (← handler.ownEndpoint) handler.options.watchParams selector
  | dynamicOfTarget handler target => do
    let (watcher, name) ← Exchange.lift (handler.watcherOfTarget target)
    return .ofName (← watcher.ownEndpoint) watcher.options.watchParams name

theorem run_watchIn (endpoint : Exchange Endpoint) (subscription : Endpoint → Subscription)
    (session : Session) :
    (DynamicHandler.watchIn endpoint fun found ↦ (subscription found).watch).run session =
      match (do return subscription (← endpoint) : Exchange Subscription).run.run session with
      | (.error error, ready) => (([], .failed error), ready)
      | (.ok sub, ready) => sub.watch.run ready := by
  change (endpoint.run >>= _).run session = _
  rw [StateT.run_bind, Exchange.run_bind]
  rcases endpoint.run.run session with ⟨result, ready⟩
  cases result <;> rfl

theorem run_watch_dynamic (handler : DynamicHandler) (target : Input) (session : Session) :
    (handler.watch target).run session =
      match handler.watcherOfTarget target with
      | .error error => (([], .failed error), session)
      | .ok (watcher, name) => (watcher.watchByName name).run session := by
  cases target with
  | name name => rfl
  | file _ | bytes _ | object _ | map _ =>
    unfold DynamicHandler.watch DynamicHandler.watcherOfTarget
    dsimp only
    generalize DynamicHandler.object _ >>= handler.watcherOf = place
    cases place <;> rfl

/-- A watch fails when it cannot be prepared, and else is the watch that was prepared. -/
theorem run_perform (order : WatchOrder) (session : Session) :
    order.perform.run session =
      match order.prepare.run.run session with
      | (.error error, ready) => (([], .failed error), ready)
      | (.ok sub, ready) => sub.watch.run ready := by
  cases order with
  | byName handler name => rfl
  | byLabel handler selector => rfl
  | byField handler selector => rfl
  | ofTarget handler target =>
    change (handler.watch target).run session = _
    rw [prepare, Exchange.run_lift_bind, Handler.watch]
    cases handler.resolve target <;> rfl
  | dynamicByName handler name =>
    exact run_watchIn handler.ownEndpoint (.ofName · handler.options.watchParams name) session
  | dynamicByLabel handler selector =>
    exact run_watchIn handler.ownEndpoint (.ofLabel · handler.options.watchParams selector) session
  | dynamicOfTarget handler target =>
    change (handler.watch target).run session = _
    rw [prepare, Exchange.run_lift_bind, run_watch_dynamic]
    cases handler.watcherOfTarget target with
    | error error => rfl
    | ok place =>
      obtain ⟨watcher, name⟩ := place
      exact run_watchIn watcher.ownEndpoint (.ofName · watcher.options.watchParams name) session

theorem run_perform_of_runs (order : WatchOrder) {session ready after : Session}
    {sub : Subscription} (hprepare : order.prepare.run.run session = (.ok sub, ready))
    {connections : List Connection} {ending : WatchEnd}
    (hruns : sub.Runs (ready.script.length + 1) ready connections ending after) :
    order.perform.run session = ((connections.flatMap Connection.reports, ending), after) := by
  rw [order.run_perform, hprepare]
  exact (sub.run_watch ready).trans hruns.run_watchFor

end WatchOrder

/-- A watch reports what is due for its connections, one after another, and nothing else. Each
connection takes a request that opens the stream and one that asks whether the objects exist; the
watch ends when one of the two fails, and waits where the last stream stays open. -/
theorem watch_reports (order : WatchOrder) (session : Session) :
    match order.prepare.run.run session with
    | (.error error, ready) => order.perform.run session = (([], .failed error), ready)
    | (.ok sub, ready) =>
      order.perform.run session = (sub.watchFor (ready.script.length + 1)).run ready ∧
      ∀ count, ∃ connections ending after last,
        sub.Runs count ready connections ending after ∧
        (sub.watchFor count).run ready =
          ((connections.flatMap Connection.reports, ending), after) ∧
        last.requests = ready.requests ++ connections.flatMap Connection.requests ∧
        sub.Stops count connections last after ending := by
  have hrun := order.run_perform session
  rcases hprepare : order.prepare.run.run session with ⟨result, ready⟩
  rw [hprepare] at hrun
  cases result with
  | error error => exact hrun
  | ok sub =>
    refine ⟨hrun.trans (sub.run_watch ready), fun count ↦ ?_⟩
    obtain ⟨connections, ending, after, hruns⟩ := sub.exists_runs count ready
    obtain ⟨last, hlast, hstops⟩ := hruns.stops
    exact ⟨connections, ending, after, last, hruns, hruns.run_watchFor, hlast, hstops⟩

end ClusterObjects
