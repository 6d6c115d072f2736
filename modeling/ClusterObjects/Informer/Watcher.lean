import ClusterObjects.Informer.Cache
import ClusterObjects.Watch.Loop

/-!
# Following a collection

A watcher lists a collection page by page and then watches it from the version of the list. A
closed stream is opened again from the last version seen; when that version is unknown or too old,
the watcher lists anew.
-/

namespace ClusterObjects

/-- The objects to follow. -/
structure WatcherConfig where
  endpoint : Endpoint
  labels : Option String := none
  fields : Option String := none

inductive WatcherState where
  /-- Nothing is known. -/
  | start
  /-- A list is being read: the objects still to report, the mark of the next page and the version
  of the last one. -/
  | listing (next : Option String) (objects : List Object) (version : Option String)
  | listed (version : String)
  | watching (version : String) (items : List StreamItem) (staysOpen : Bool)

/-- What a step of a watcher brings. -/
inductive WatcherStep where
  | event (event : CollectionEvent)
  | failure
  | quiet
  /-- Nothing will ever happen again. -/
  | blocked
  /-- An object has come without the name that it would be known by. -/
  | crash

namespace WatcherConfig

def pageSize : Nat := 500

def listQuery (config : WatcherConfig) (next : Option String) : List (String × String) :=
  Endpoint.listQuery
      { labelSelector := config.labels, fieldSelector := config.fields, limit := some pageSize }
    ++ Endpoint.pairs [("continue", next)]

def watchParams (config : WatcherConfig) : WatchParams :=
  { labelSelector := config.labels, fieldSelector := config.fields }

/-- A failed exchange, which is none at all when the answer never comes. -/
def failed (error : Error) (state stuck : WatcherState) : WatcherStep × WatcherState :=
  if error = .api .unanswered then (.blocked, stuck) else (.failure, state)

/-- Asks for a page of the list. A page has to lead on: to the next one or to a version. -/
def readPage (config : WatcherConfig) (next : Option String) (version : Option String) :
    StateM Session (WatcherStep × WatcherState) := do
  match ← (config.endpoint.listPage (config.listQuery next)).run with
  | .error error => return failed error .start (.listing next [] version)
  | .ok page =>
    let version := page.version.bind nonEmpty?
    let next := page.next.bind nonEmpty?
    if version.isNone && next.isNone then return (.failure, .start)
    else return (.quiet, .listing next page.items version)

/-- The event that an object takes part in. -/
def eventOf (event : NamedObject → CollectionEvent) (object : Object) : WatcherStep :=
  match NamedObject.ofObject? object with
  | some named => .event (event named)
  | none => .crash

/-- Reports a change of an object, whose version is where a new stream would start. -/
def report (object : Object) (event : NamedObject → CollectionEvent) (items : List StreamItem)
    (staysOpen : Bool) : WatcherStep × WatcherState :=
  match object.resourceVersion?.bind nonEmpty? with
  | some version => (eventOf event object, .watching version items staysOpen)
  | none => (.failure, .start)

/-- The status code that tells a watcher that its version is too old. -/
def goneCode : Nat := 410

def readItem (version : String) (items : List StreamItem) (staysOpen : Bool) :
    StreamItem → WatcherStep × WatcherState
  | .event (.added object) | .event (.modified object) => report object .apply items staysOpen
  | .event (.deleted object) => report object .delete items staysOpen
  | .event (.bookmark version) => (.quiet, .watching version items staysOpen)
  | .event (.error cause) =>
    (.failure,
      if cause.statusCode = some goneCode then .start else .watching version items staysOpen)
  | .failure _ => (.failure, .watching version items staysOpen)

def step (config : WatcherConfig) : WatcherState → StateM Session (WatcherStep × WatcherState)
  | .start => return (.event .init, .listing none [] none)
  | .listing next (object :: objects) version =>
    return (eventOf .initApply object, .listing next objects version)
  | .listing none [] (some version) => return (.event .initDone, .listed version)
  | .listing next [] version => config.readPage next version
  | .listed version => do
    match ← (config.endpoint.openWatch config.watchParams version).run with
    | .ok (items, staysOpen) => return (.quiet, .watching version items staysOpen)
    | .error error => return failed error (.listed version) (.listed version)
  | .watching version (item :: items) staysOpen => return readItem version items staysOpen item
  | .watching version [] true => return (.blocked, .watching version [] true)
  | .watching version [] false => return (.quiet, .listed version)

end WatcherConfig

end ClusterObjects
