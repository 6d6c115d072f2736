import ClusterObjects.Watch.Dispatch
import Mathlib.Data.List.Infix

/-!
# What a connection has to report

On one connection of a watch the server answers whether the watched objects exist and streams
events. `Connection.reports` says what is owed to the watcher from that alone, each event judged by
the events before it: a change is reported as it is, and an addition when it follows a deletion, or
when nothing has changed before it on the connection and no watched object existed. Dispatching with
a flag makes exactly these calls.
-/

namespace ClusterObjects

namespace StreamItem

/-- The events of a stream, as far as it can be read: up to its first failure. -/
def readable : List StreamItem → List WatchEvent
  | event e :: rest => e :: readable rest
  | [] | failure _ :: _ => []

end StreamItem

namespace WatchEvent

def isChange : WatchEvent → Bool
  | added _ | modified _ | deleted _ => true
  | bookmark _ | error _ => false

/-- Whether an object that is added is a new one, after the earlier events of its connection: the
nearest earlier change is a deletion, or there is none and no watched object existed. -/
def comesNew (exists? : Bool) (earlier : List WatchEvent) : Bool :=
  match (earlier.filter isChange).getLast? with
  | some (.deleted _) => true
  | some _ => false
  | none => !exists?

/-- What an event is reported as, after the earlier events of its connection. -/
def report? (exists? : Bool) (earlier : List WatchEvent) : WatchEvent → Option WatchCall
  | added object => if comesNew exists? earlier then some (.add object) else none
  | modified object => some (.modify object)
  | deleted object => some (.delete object)
  | bookmark _ | error _ => none

/-- The reports of events that come after earlier ones: each with all the events before it. -/
def reports (exists? : Bool) (earlier events : List WatchEvent) : List WatchCall :=
  (events.inits.zip events).filterMap fun (between, event) ↦
    event.report? exists? (earlier ++ between)

theorem reports_cons (exists? : Bool) (earlier : List WatchEvent) (event : WatchEvent)
    (rest : List WatchEvent) :
    reports exists? earlier (event :: rest) =
      (event.report? exists? earlier).toList ++ reports exists? (earlier ++ [event]) rest := by
  unfold reports
  rw [List.inits_cons, List.zip_cons_cons, List.filterMap_cons, List.zip_map_left,
    List.filterMap_map]
  simp only [Function.comp_def, Prod.map, id, List.append_nil, List.append_assoc,
    List.singleton_append]
  cases event.report? exists? earlier <;> rfl

/-- Dispatches events one after another. -/
def dispatchAll (exists? : Bool) : List WatchEvent → List WatchCall
  | [] => []
  | event :: rest => (event.dispatch exists?).1 ++ dispatchAll (event.dispatch exists?).2 rest

/-- Dispatching an event makes its report, and the flag is again whether no addition would be
new. -/
theorem dispatch_eq (exists? : Bool) (earlier : List WatchEvent) (event : WatchEvent) :
    event.dispatch (!comesNew exists? earlier) =
      ((event.report? exists? earlier).toList, !comesNew exists? (earlier ++ [event])) := by
  have hlast : comesNew exists? (earlier ++ [event]) =
      match event with
      | .added _ | .modified _ => false
      | .deleted _ => true
      | .bookmark _ | .error _ => comesNew exists? earlier := by
    unfold comesNew
    rw [List.filter_append]
    cases event <;> simp [isChange]
  rw [hlast]
  cases event with
  | added object => cases hnew : comesNew exists? earlier <;> simp [dispatch, report?, hnew]
  | modified object => rfl
  | deleted object => rfl
  | bookmark version => rfl
  | error cause => rfl

theorem dispatchAll_eq_reports (exists? : Bool) (earlier events : List WatchEvent) :
    dispatchAll (!comesNew exists? earlier) events = reports exists? earlier events := by
  induction events generalizing earlier with
  | nil => rfl
  | cons event rest ih => rw [dispatchAll, dispatch_eq, ih, reports_cons]

end WatchEvent

/-- One connection of a watch: the request that opened its stream and what the stream brings, and
the request that asked whether the watched objects exist and the answer to it. -/
structure Connection where
  opening : Request
  items : List StreamItem
  /-- Whether the stream stays open behind its last item. -/
  staysOpen : Bool
  question : Request
  exists? : Bool

namespace Connection

def requests (connection : Connection) : List Request := [connection.opening, connection.question]

def events (connection : Connection) : List WatchEvent := StreamItem.readable connection.items

/-- The calls that are due for a connection. -/
def reports (connection : Connection) : List WatchCall :=
  WatchEvent.reports connection.exists? [] connection.events

/-- Whether the connection never ends: its stream stays open and has not failed. -/
def lasts (connection : Connection) : Bool :=
  connection.staysOpen && !connection.items.any fun
    | .failure _ => true
    | .event _ => false

end Connection

theorem StreamItem.calls_eq_dispatchAll (exists? : Bool) (items : List StreamItem) :
    calls exists? items = WatchEvent.dispatchAll exists? (readable items) := by
  induction items generalizing exists? with
  | nil => rfl
  | cons item rest ih =>
    cases item with
    | failure cause => rfl
    | event e => exact congrArg (_ ++ ·) (ih _)

theorem Connection.reports_eq_dispatchAll (connection : Connection) :
    connection.reports = WatchEvent.dispatchAll connection.exists? connection.events := by
  have h := WatchEvent.dispatchAll_eq_reports connection.exists? [] connection.events
  rw [show WatchEvent.comesNew connection.exists? [] = !connection.exists? from rfl,
    Bool.not_not] at h
  exact h.symm

/-- What dispatching calls on a connection is what is due. -/
theorem Connection.calls_eq_reports (connection : Connection) :
    StreamItem.calls connection.exists? connection.items = connection.reports := by
  rw [connection.reports_eq_dispatchAll, StreamItem.calls_eq_dispatchAll]
  rfl

end ClusterObjects
