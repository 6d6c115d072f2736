import ClusterObjects.Api.Endpoint
import ClusterObjects.Watch.Dispatch

/-!
# Watching without end

A watch opens a stream, asks whether the watched objects exist, and reports what the stream brings.
When the stream ends or fails it starts anew, with nothing carried over. It comes to an end only by
an error in opening the stream or in asking, and it waits for ever on a stream that stays open.
-/

namespace ClusterObjects

/-- How to find out whether the watched objects exist. -/
inductive Existence where
  | name (name : String)
  | selector (query : List (String × String))
  deriving DecidableEq, Repr

/-- How a watch ends. -/
inductive WatchEnd where
  | failed (error : Error)
  | waiting
  deriving DecidableEq, Repr

namespace Existence

def labels (selector : String) : Existence :=
  .selector (Endpoint.listQuery { labelSelector := some selector, limit := some 1 })

def fields (selector : String) : Existence :=
  .selector (Endpoint.listQuery { fieldSelector := some selector, limit := some 1 })

def check (endpoint : Endpoint) : Existence → Exchange Bool
  | name wanted => do return (← endpoint.find? wanted).isSome
  | selector query => do return !(← endpoint.listPage query).items.isEmpty

end Existence

namespace Endpoint

/-- The stream of a watch from the beginning, and whether it stays open. -/
def openWatch (endpoint : Endpoint) (params : WatchParams) (version : String) :
    Exchange (List StreamItem × Bool) := do
  let (request, reply) ← Exchange.open? (endpoint.watchRequest? params version)
  match reply with
  | .answer _ body staysOpen =>
    return (StreamItem.ofBody endpoint.decode (body.textFor request), staysOpen)
  | .abort => Exchange.failApi .connection
  | .silence => Exchange.failApi .unanswered

/-- One connection of a watch: its calls, and whether its stream stays open. A stream that has
failed is left, open or not. -/
def watchOnce (endpoint : Endpoint) (params : WatchParams) (existence : Existence) :
    Exchange (List WatchCall × Bool) := do
  let (items, staysOpen) ← endpoint.openWatch params "0"
  let exists? ← existence.check endpoint
  let failed := items.any fun
    | .failure _ => true
    | .event _ => false
  return (StreamItem.calls exists? items, staysOpen && !failed)

/-- Connects at most `count` times. -/
def watchFor (endpoint : Endpoint) (params : WatchParams) (existence : Existence) :
    (count : Nat) → StateM Session (List WatchCall × WatchEnd)
  | 0 => return ([], .waiting)
  | count + 1 => do
    match ← (endpoint.watchOnce params existence).run with
    | .error error => return ([], .failed error)
    | .ok (calls, true) => return (calls, .waiting)
    | .ok (calls, false) =>
      let (more, ending) ← watchFor endpoint params existence count
      return (calls ++ more, ending)

/-- Watches until an error. Beyond the script of the server every connection is the same, so one
more than the script has replies is enough to see how the watch ends. -/
def watch (endpoint : Endpoint) (params : WatchParams) (existence : Existence) :
    StateM Session (List WatchCall × WatchEnd) := do
  watchFor endpoint params existence ((← getThe Session).script.length + 1)

/-- Watches the object with a name. -/
def watchName (endpoint : Endpoint) (params : WatchParams) (name : String) :
    StateM Session (List WatchCall × WatchEnd) :=
  endpoint.watch { params with fieldSelector := some ("metadata.name=" ++ name) } (.name name)

end Endpoint

end ClusterObjects
