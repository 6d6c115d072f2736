import ClusterObjects.Proofs.Handler.Watch
import Mathlib.Data.List.Chain
import Mathlib.Data.List.Forall2

/-!
# Objects that are created anew around a watch

Other clients create, update and delete a watched object at any time: while no stream is open,
between the opening of a stream and the question whether the object exists, and after that. A
`Round` is what they do around one connection, and `Round.Serves` says that the server tells the
connection the truth: the stream replays the object that is there when it is opened and goes on with
the later changes, and the answer is whether the object is there when the question is asked. On such
a connection every change is reported as it comes, except that the first one, which adds the object,
is reported only if the object was not there at the question. So an object that was created anew
before the opening is reported just when it has gone again by the question.
-/

namespace ClusterObjects

/-- What a client does to an object. A deletion comes with what was last known of the object. -/
inductive Change where
  | create (object : Object)
  | update (object : Object)
  | delete (object : Object)

namespace Change

/-- The object after a change. A change that the object does not allow is refused. -/
def carryOut : (live : Option Object) → Change → Option Object
  | none, create object => some object
  | some _, update object => some object
  | some _, delete _ => none
  | live, _ => live

/-- The event of a change, unless it is refused. -/
def event? : (live : Option Object) → Change → Option WatchEvent
  | none, create object => some (.added object)
  | some _, update object => some (.modified object)
  | some _, delete object => some (.deleted object)
  | _, _ => none

/-- The object after some changes. -/
def outcome (live : Option Object) (changes : List Change) : Option Object :=
  changes.foldl carryOut live

/-- The events of some changes. -/
def events (live : Option Object) : List Change → List WatchEvent
  | [] => []
  | change :: rest => (event? live change).toList ++ events (carryOut live change) rest

end Change

/-- The call that a change is reported by when it is reported. -/
def WatchEvent.told? : WatchEvent → Option WatchCall
  | added object => some (.add object)
  | modified object => some (.modify object)
  | deleted object => some (.delete object)
  | bookmark _ | error _ => none

/-- The changes of a connection, as far as its stream can be read. -/
def Connection.changes (connection : Connection) : List WatchEvent :=
  connection.events.filter WatchEvent.isChange

/-- What happens to the watched object around one connection, and what there was before. -/
structure Round where
  before : Option Object
  /-- Since the end of the last stream. -/
  away : List Change
  /-- Between the opening of the stream and the question whether the object exists. -/
  asking : List Change
  /-- From the question to the end of the stream. -/
  following : List Change

namespace Round

/-- The object when the stream is opened. -/
def opened (round : Round) : Option Object := Change.outcome round.before round.away

/-- The object when the question is asked. -/
def asked (round : Round) : Option Object := Change.outcome round.opened round.asking

/-- The object when the stream ends. -/
def ended (round : Round) : Option Object := Change.outcome round.asked round.following

/-- The events that the stream brings if it is not broken off. -/
def stream (round : Round) : List WatchEvent :=
  (round.opened.map .added).toList ++
    Change.events round.opened (round.asking ++ round.following)

/-- One round comes after another. -/
def Precedes (first second : Round) : Prop := second.before = first.ended

/-- The object was deleted and created anew between two streams. -/
def Recreates (round : Round) (new : Object) : Prop :=
  round.before.isSome ∧ round.opened = some new ∧
    ∃ front back, round.away = front ++ back ∧ Change.outcome round.before front = none

/-- The server tells a connection the truth. The stream may be broken off anywhere, and it may hold
events that are no changes. -/
structure Serves (round : Round) (connection : Connection) : Prop where
  stream : connection.changes <+: round.stream
  answer : connection.exists? = round.asked.isSome

end Round

namespace WatchEvent

theorem dispatchAll_filter_isChange (exists? : Bool) (events : List WatchEvent) :
    dispatchAll exists? (events.filter isChange) = dispatchAll exists? events := by
  induction events generalizing exists? with
  | nil => rfl
  | cons event rest ih =>
    cases event with
    | added _ | modified _ | deleted _ => exact congrArg (_ ++ ·) (ih _)
    | bookmark _ | error _ => exact ih exists?

/-- A change is reported as it comes when the flag says whether the object is there. -/
theorem dispatch_event {live : Option Object} {change : Change} {event : WatchEvent}
    (h : Change.event? live change = some event) :
    event.dispatch live.isSome = (event.told?.toList, (Change.carryOut live change).isSome) := by
  cases live <;> cases change <;> cases h <;> rfl

theorem dispatchAll_events {live : Option Object} {changes : List Change}
    {delivered : List WatchEvent} (h : delivered <+: Change.events live changes) :
    dispatchAll live.isSome delivered = delivered.filterMap told? := by
  induction changes generalizing live delivered with
  | nil =>
    rw [List.prefix_nil.1 h]
    rfl
  | cons change rest ih =>
    unfold Change.events at h
    cases hevent : Change.event? live change with
    | none =>
      have hsame : Change.carryOut live change = live := by
        cases live <;> cases change <;> first | rfl | cases hevent
      rw [hevent, hsame] at h
      exact ih h
    | some event =>
      rw [hevent] at h
      rcases List.prefix_cons_iff.1 h with rfl | ⟨later, rfl, hlater⟩
      · rfl
      · rw [dispatchAll, dispatch_event hevent, ih hlater, List.filterMap_cons]
        cases event.told? <;> rfl

end WatchEvent

namespace Round

variable {round : Round} {connection : Connection}

theorem events_none (changes : List Change) :
    Change.events none changes = [] ∨
      ∃ object rest,
        Change.events none changes = .added object :: Change.events (some object) rest := by
  induction changes with
  | nil => exact .inl rfl
  | cons change rest ih =>
    cases change with
    | create object => exact .inr ⟨object, rest, rfl⟩
    | update object | delete object => exact ih

/-- A stream begins with the object as it was found or as it was created. -/
theorem stream_eq (round : Round) :
    round.stream = [] ∨
      ∃ object rest, round.stream = .added object :: Change.events (some object) rest := by
  unfold stream
  cases round.opened with
  | none => exact events_none _
  | some object => exact .inr ⟨object, _, rfl⟩

/-- All that is delivered is reported, but for the first change when the object was there at the
question. -/
theorem Serves.reports_eq (h : round.Serves connection) {first : WatchEvent}
    {later : List WatchEvent} (hchanges : connection.changes = first :: later) :
    connection.reports =
      (if round.asked.isSome then [] else first.told?.toList) ++
        later.filterMap WatchEvent.told? := by
  have hprefix := h.stream
  rw [hchanges] at hprefix
  rcases round.stream_eq with hstream | ⟨object, rest, hstream⟩
  · rw [hstream] at hprefix
    cases List.prefix_nil.1 hprefix
  · rw [hstream, List.cons_prefix_cons] at hprefix
    obtain ⟨rfl, hlater⟩ := hprefix
    have hrest := WatchEvent.dispatchAll_events hlater
    rw [connection.reports_eq_dispatchAll, ← WatchEvent.dispatchAll_filter_isChange,
      show connection.events.filter WatchEvent.isChange = _ from hchanges, ← h.answer, ← hrest]
    rfl

theorem Serves.first_eq (h : round.Serves connection) {new : Object}
    (hopened : round.opened = some new) {first : WatchEvent} {later : List WatchEvent}
    (hchanges : connection.changes = first :: later) : first = .added new := by
  have hprefix := h.stream
  rw [hchanges] at hprefix
  unfold Round.stream at hprefix
  rw [hopened] at hprefix
  exact (List.cons_prefix_cons.1 hprefix).1

end Round

/-- An object that is there when a stream is opened, for instance because it was created anew since
the last one, is reported as added on that connection if and only if its event is delivered and it
has gone again by the question whether it exists. The later changes are reported as they come. -/
theorem watch_reports_found_iff_gone (order : WatchOrder) {session ready : Session}
    {sub : Subscription} (hprepare : order.prepare.run.run session = (.ok sub, ready))
    {connections : List Connection} {ending : WatchEnd} {after : Session}
    (hruns : sub.Runs (ready.script.length + 1) ready connections ending after)
    {rounds : List Round} (hserved : List.Forall₂ Round.Serves rounds connections) :
    order.perform.run session = ((connections.flatMap Connection.reports, ending), after) ∧
      List.Forall₂ (fun round connection ↦
        ∀ new, round.opened = some new → connection.changes ≠ [] →
          ∃ later, connection.changes = .added new :: later ∧
            connection.reports = (if round.asked.isSome then [] else [.add new]) ++
              later.filterMap WatchEvent.told?) rounds connections := by
  constructor
  · exact order.run_perform_of_runs hprepare hruns
  · refine hserved.imp fun round connection h new hopened hdelivered ↦ ?_
    obtain ⟨first, later, hchanges⟩ := List.exists_cons_of_ne_nil hdelivered
    obtain rfl := h.first_eq hopened hchanges
    exact ⟨later, hchanges, h.reports_eq hchanges⟩

/-! ## A story of one object -/

namespace Recreation

/-- An object that is told apart from its successors by its identity alone. -/
def settings (uid : String) : Object :=
  ⟨some Kind.configMap.typeMeta, [("name", .str "settings"), ("uid", .str uid)], []⟩

def order : WatchOrder := .byName (Handler.new .configMap "apps") "settings"

def subscription : Subscription :=
  .ofName (Handler.new .configMap "apps").endpoint {} "settings"

/-- A connection of this watch that brings one event. -/
def connection (object : Object) (exists? : Bool) : Connection where
  opening := ⟨.get, "/api/v1/namespaces/apps/configmaps",
    [("watch", "true"), ("timeoutSeconds", "290"), ("fieldSelector", "metadata.name=settings"),
      ("allowWatchBookmarks", "true"), ("resourceVersion", "0")], none, none⟩
  items := [.event (.added object)]
  staysOpen := false
  question := ⟨.get, "/api/v1/namespaces/apps/configmaps/settings", [], none, none⟩
  exists? := exists?

/-- The object is created under an open stream, and then deleted and created anew between two
streams. The answer to the second question is given here. -/
def session (answer : Reply) : Session where
  script := [.ofEvents [("ADDED", settings "1")], .ofFailure 404 "NotFound",
    .ofEvents [("ADDED", settings "2")], answer, .abort]

/-- The two rounds of the story, with what happens to the new object before the second question. -/
def rounds (asking : List Change) : List Round :=
  [⟨none, [], [], [.create (settings "1")]⟩,
    ⟨some (settings "1"), [.delete (settings "1"), .create (settings "2")], asking, []⟩]

theorem runs_story (answer : Reply) (exists? : Bool)
    (h : subscription.existence.answer subscription.endpoint
      (connection (settings "2") exists?).question answer = .ok exists?) :
    ∃ after, subscription.Runs ((session answer).script.length + 1) (session answer)
      [connection (settings "1") false, connection (settings "2") exists?]
      (.failed (.api .connection)) after := by
  change ∃ after, subscription.Runs 6 _ _ _ after
  have hopening : subscription.opening? = some (connection (settings "1") false).opening := by
    decide +kernel
  have hquestion : subscription.question? = some (connection (settings "1") false).question := by
    decide +kernel
  have hfirst : subscription.endpoint.stream (connection (settings "1") false).opening
      (.ofEvents [("ADDED", settings "1")]) = .ok ([.event (.added (settings "1"))], false) := by
    decide +kernel
  have hmissing : subscription.existence.answer subscription.endpoint
      (connection (settings "1") false).question (.ofFailure 404 "NotFound") = .ok false := by
    decide +kernel
  have hsecond : subscription.endpoint.stream (connection (settings "1") false).opening
      (.ofEvents [("ADDED", settings "2")]) = .ok ([.event (.added (settings "2"))], false) := by
    decide +kernel
  exact ⟨_, .again ⟨hopening, hfirst, hquestion, hmissing, rfl⟩ rfl
    (.again ⟨hopening, hsecond, hquestion, h, rfl⟩ rfl (.failed (.unopened hopening rfl)))⟩

theorem serves_rounds {asking : List Change} {exists? : Bool}
    (h : (Change.outcome (some (settings "2")) asking).isSome = exists?) :
    List.Forall₂ Round.Serves (rounds asking)
      [connection (settings "1") false, connection (settings "2") exists?] :=
  .cons ⟨by decide +kernel, rfl⟩ (.cons ⟨List.prefix_append [_] _, h.symm⟩ .nil)

/-- The new object has gone again by the question, and is reported like the old one. -/
theorem watch_reports_recreated_gone :
    let told := session (.ofFailure 404 "NotFound")
    let gone := rounds [.delete (settings "2")]
    let first := connection (settings "1") false
    let second := connection (settings "2") false
    ∃ after,
      order.prepare.run.run told = (.ok subscription, told) ∧
        subscription.Runs (told.script.length + 1) told [first, second]
          (.failed (.api .connection)) after ∧
        List.Forall₂ Round.Serves gone [first, second] ∧
        (∃ round ∈ gone, round.Recreates (settings "2")) ∧
        order.perform.run told =
          (([.add (settings "1"), .add (settings "2")], .failed (.api .connection)), after) ∧
        ∃ later, second.changes = .added (settings "2") :: later ∧
          second.reports = .add (settings "2") :: later.filterMap WatchEvent.told? := by
  intro told gone first second
  have hprepare : order.prepare.run.run told = (.ok subscription, told) := rfl
  obtain ⟨after, hruns⟩ := runs_story (.ofFailure 404 "NotFound") false (by decide +kernel)
  have hserved : List.Forall₂ Round.Serves gone [first, second] := serves_rounds rfl
  have hrecreates : (rounds [.delete (settings "2")])[1].Recreates (settings "2") :=
    ⟨rfl, rfl, [.delete (settings "1")], [.create (settings "2")], rfl, rfl⟩
  have hcalls : [first, second].flatMap Connection.reports =
      [.add (settings "1"), .add (settings "2")] := by decide +kernel
  obtain ⟨hrun, hreports⟩ := watch_reports_found_iff_gone order hprepare hruns hserved
  have hsecond := (List.forall₂_cons.1 (List.forall₂_cons.1 hreports).2).1
  rw [hcalls] at hrun
  exact ⟨after, hprepare, hruns, hserved,
    ⟨_, List.mem_cons_of_mem _ List.mem_cons_self, hrecreates⟩, hrun,
    hsecond (settings "2") rfl (by decide +kernel)⟩

/-- The new object is there at the question, and the watch is silent about it. -/
theorem exists_recreated_unreported :
    ∃ told connections after rounds,
      subscription.Runs (told.script.length + 1) told connections (.failed (.api .connection))
        after ∧
      rounds.IsChain Round.Precedes ∧ List.Forall₂ Round.Serves rounds connections ∧
      ∃ served ∈ rounds.zip connections, served.1.Recreates (settings "2") ∧
        .added (settings "2") ∈ served.2.events ∧
        .add (settings "2") ∉ served.2.reports ∧
        (order.perform.run told).1.1 = [.add (settings "1")] := by
  let first := connection (settings "1") false
  let second := connection (settings "2") true
  obtain ⟨after, hruns⟩ := runs_story (.ofValue 200 (settings "2").toJson) true
    (by decide +kernel)
  have hchain : (rounds []).IsChain Round.Precedes := .cons_cons rfl (.singleton _)
  have hrecreates : (rounds [])[1].Recreates (settings "2") :=
    ⟨rfl, rfl, [.delete (settings "1")], [.create (settings "2")], rfl, rfl⟩
  have hdelivered : .added (settings "2") ∈ second.events := by decide +kernel
  have hunreported : .add (settings "2") ∉ second.reports := by decide +kernel
  have hcalls : [first, second].flatMap Connection.reports = [.add (settings "1")] := by
    decide +kernel
  refine ⟨_, [first, second], after, rounds [], hruns, hchain, serves_rounds rfl, _,
    List.mem_cons_of_mem _ List.mem_cons_self, hrecreates, hdelivered, hunreported, ?_⟩
  rw [order.run_perform_of_runs rfl hruns, hcalls]

end Recreation

end ClusterObjects
