import ClusterObjects.Watch.Event

/-!
# From events to calls

A watcher learns of the objects that are there, and a server reports each of them again at the
start of a stream. Dispatching keeps whether the watched objects exist, so that only an object that
was not there before is reported as added.
-/

namespace ClusterObjects

inductive WatchCall where
  | add (object : Object)
  | modify (object : Object)
  | delete (object : Object)
  deriving DecidableEq, Repr

namespace WatchEvent

/-- The call that an event makes, and whether the watched objects exist after it. -/
def dispatch (exists? : Bool) : WatchEvent → List WatchCall × Bool
  | added object => (if exists? then [] else [.add object], true)
  | modified object => ([.modify object], true)
  | deleted object => ([.delete object], false)
  | bookmark _ | error _ => ([], exists?)

end WatchEvent

namespace StreamItem

/-- The calls of a stream up to its first failure. -/
def calls (exists? : Bool) : List StreamItem → List WatchCall
  | [] | failure _ :: _ => []
  | event e :: rest => (e.dispatch exists?).1 ++ calls (e.dispatch exists?).2 rest

end StreamItem

end ClusterObjects
