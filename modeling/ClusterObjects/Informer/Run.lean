import ClusterObjects.Informer.Store
import ClusterObjects.Informer.Watcher

/-!
# Running an informer

An informer keeps a cache and a store up to date for a span of time. The clock advances only when
nothing else can happen: while the informer pauses after a failure, or waits for the server. Between
its other doings it reports what it knows once in every period. An object without a name ends it at
once.
-/

namespace ClusterObjects

/-- A call of a running informer: for a change, or for the period that is over. -/
inductive InformerReport where
  | change (call : CacheCall)
  | resync (call : CacheCall)
  deriving DecidableEq, Repr

structure InformerRun where
  watcher : WatcherState := .start
  cache : InformerCache := {}
  store : ObjectStore := {}
  /-- The reports, the last one first. -/
  reports : List InformerReport := []
  /-- The number of failures so far. -/
  failures : Nat := 0
  /-- The milliseconds that have passed, and the last of them at which a period was over. -/
  now : Nat := 0
  crashed : Bool := false

namespace InformerRun

def firstPause : Nat := 800

def maxPause : Nat := 30000

/-- The pause after a failure is twice the one before, up to a limit. -/
def pause (failures : Nat) : Nat :=
  if 6 ≤ failures then maxPause else min maxPause (firstPause * Nat.pow 2 failures)

def record (run : InformerRun) (event : CollectionEvent) : InformerRun :=
  let (calls, cache) := run.cache.step event
  { run with
    cache, store := run.store.step event
    reports := (calls.map .change).reverse ++ run.reports }

/-- The reports of `count` periods in which nothing changes. -/
def resyncs (cache : InformerCache) : (count : Nat) → List InformerReport → List InformerReport
  | 0, reports => reports
  | count + 1, reports =>
    resyncs cache count ((cache.resync.map InformerReport.resync).reverse ++ reports)

/-- Lets the clock advance to a time, with a report for every period that ends by then. -/
def advance (run : InformerRun) (period time : Nat) : InformerRun :=
  let count := if period = 0 then 0 else time / period - run.now / period
  { run with
    now := time
    reports := if run.cache.synced then resyncs run.cache count run.reports else run.reports }

/-- Runs until the clock reaches `finish`, and takes at most `fuel` steps. -/
def go (config : WatcherConfig) (period finish : Nat) :
    (fuel : Nat) → InformerRun → StateM Session InformerRun
  | 0, run => return run
  | fuel + 1, run => do
    let (step, watcher) ← config.step run.watcher
    let run := { run with watcher }
    match step with
    | .event event => go config period finish fuel (run.record event)
    | .quiet => go config period finish fuel run
    | .blocked => return run.advance period (finish - 1)
    | .crash => return { run with crashed := true }
    | .failure =>
      let wake := run.now + pause run.failures
      let run := { run with failures := run.failures + 1 }
      if wake < finish then go config period finish fuel (run.advance period wake)
      else return run.advance period (finish - 1)

/-- A bound on the steps that a script leads to: each reply is taken once, and has no more items
than characters. -/
def stepBound (script : List Reply) : Nat :=
  script.foldl (fun total reply ↦ total + 8 + match reply with
    | .answer _ (.text text) _ => text.length
    | _ => 0) 16

/-- Runs an informer for a span of time, at whose end it is told to stop. -/
def run (config : WatcherConfig) (period finish : Nat) : StateM Session InformerRun := do
  if finish = 0 then return {}
  else go config period finish (stepBound (← getThe Session).script) {}

end InformerRun

end ClusterObjects
