import ClusterObjects.Dynamic.Operations
import ClusterObjects.Handler.Operations
import ClusterObjects.Proofs.Api.Answer
import ClusterObjects.Proofs.Api.Verbs
import ClusterObjects.Proofs.Watch.Report

/-!
# Runs of a watch

A watch is a run through connections, each with a request that opens a stream and a request that
asks whether the watched objects exist. `Subscription.Runs` describes the runs of a given number of
connections at most, from session to session; every watch has one, and its calls are the reports of
the connections, one after another. A watch ends with the error of a stream that could not be opened
or of a question that could not be answered, and with nothing else.
-/

namespace ClusterObjects

/-- A reply with a stream that reports objects, each with the type of its event, and ends. -/
def Reply.ofEvents (events : List (String × Object)) : Reply :=
  .answer 200 (.text (String.join (events.map fun (type, object) ↦
    (Json.object [("type", .str type), ("object", object.toJson)]).text ++ "\n"))) false

namespace Endpoint

/-- The stream in a reply, and whether it stays open. -/
def stream (endpoint : Endpoint) (request : Request) : Reply → Except Error (List StreamItem × Bool)
  | .answer _ body staysOpen =>
    .ok (StreamItem.ofBody endpoint.decode (body.textFor request), staysOpen)
  | .abort => .error (.api .connection)
  | .silence => .error (.api .unanswered)

theorem asks_openWatch (endpoint : Endpoint) (params : WatchParams) (version : String) :
    (endpoint.openWatch params version).Asks (endpoint.watchRequest? params version)
      endpoint.stream := by
  have hends (asked : Request × Reply) : Exchange.Ends (match asked.2 with
      | .answer _ body staysOpen =>
        return (StreamItem.ofBody endpoint.decode (body.textFor asked.1), staysOpen)
      | .abort => Exchange.failApi .connection
      | .silence => Exchange.failApi .unanswered) (endpoint.stream asked.1 asked.2) := by
    cases asked.2 <;> exact fun _ ↦ rfl
  exact (Exchange.asks_open? _ _).bind hends

/-- The outcome of a request for an object that may be missing. -/
def orMissing : Except Error Object → Except Error (Option Object)
  | .ok object => .ok (some object)
  | .error (.api (.status code reason message)) =>
    if reason = "NotFound" then .ok none else .error (.api (.status code reason message))
  | .error error => .error error

theorem find?_eq (endpoint : Endpoint) (name : String) (session : Session) :
    endpoint.find? name session =
      (orMissing (endpoint.get name session).1, (endpoint.get name session).2) := by
  unfold find? orMissing
  rcases endpoint.get name session with ⟨result, after⟩
  cases result with
  | ok object => rfl
  | error error =>
    cases error with
    | api cause =>
      cases cause with
      | status code reason message =>
        dsimp only
        split <;> rfl
      | connection | undecodable | badRequest | badAddress | unanswered | unknownKind => rfl
    | unreadable | yaml | json | kindMismatch | missingName | missingGvk | discovery
    | invalidPatch | invalidInput => rfl

theorem asks_find? (endpoint : Endpoint) (name : String) :
    (endpoint.find? name).Asks (endpoint.getRequest? name)
      fun request reply ↦ orMissing (endpoint.objectIn request reply) := by
  intro session
  have hget : endpoint.get name session = _ := endpoint.asks_get name session
  change endpoint.find? name session = _
  rw [find?_eq, hget]
  cases endpoint.getRequest? name <;> rfl

end Endpoint

namespace Existence

/-- The request that asks whether the watched objects exist. -/
def question? (endpoint : Endpoint) : Existence → Option Request
  | name wanted => endpoint.getRequest? wanted
  | selector query => endpoint.listRequest? query

/-- What the reply to the question means. -/
def answer (endpoint : Endpoint) (existence : Existence) (request : Request) (reply : Reply) :
    Except Error Bool :=
  match existence with
  | name _ => do return (← Endpoint.orMissing (endpoint.objectIn request reply)).isSome
  | selector _ => do return !(← endpoint.pageIn request reply).items.isEmpty

theorem asks_check (endpoint : Endpoint) (existence : Existence) :
    (existence.check endpoint).Asks (existence.question? endpoint)
      (existence.answer endpoint) := by
  cases existence with
  | name wanted => exact (endpoint.asks_find? wanted).bind fun _ _ ↦ rfl
  | selector query => exact (endpoint.asks_listPage query).bind fun _ _ ↦ rfl

end Existence

/-- A watch that is ready to begin. -/
structure Subscription where
  endpoint : Endpoint
  params : WatchParams
  existence : Existence

namespace Subscription

def ofName (endpoint : Endpoint) (params : WatchParams) (name : String) : Subscription :=
  ⟨endpoint, { params with fieldSelector := some ("metadata.name=" ++ name) }, .name name⟩

def ofLabel (endpoint : Endpoint) (params : WatchParams) (selector : String) : Subscription :=
  ⟨endpoint, { params with labelSelector := some selector }, .labels selector⟩

def ofField (endpoint : Endpoint) (params : WatchParams) (selector : String) : Subscription :=
  ⟨endpoint, { params with fieldSelector := some selector }, .fields selector⟩

variable (sub : Subscription)

/-- The request that opens a stream. -/
def opening? : Option Request := sub.endpoint.watchRequest? sub.params "0"

/-- The request that asks whether the watched objects exist. -/
def question? : Option Request := sub.existence.question? sub.endpoint

theorem asks_opening :
    (sub.endpoint.openWatch sub.params "0").Asks sub.opening? sub.endpoint.stream :=
  sub.endpoint.asks_openWatch sub.params "0"

theorem asks_question :
    (sub.existence.check sub.endpoint).Asks sub.question? (sub.existence.answer sub.endpoint) :=
  Existence.asks_check sub.endpoint sub.existence

def watchOnce : Exchange (List WatchCall × Bool) :=
  sub.endpoint.watchOnce sub.params sub.existence

def watchFor (count : Nat) : StateM Session (List WatchCall × WatchEnd) :=
  sub.endpoint.watchFor sub.params sub.existence count

/-- Watches until an error. -/
def watch : StateM Session (List WatchCall × WatchEnd) :=
  sub.endpoint.watch sub.params sub.existence

theorem run_watch (session : Session) :
    sub.watch.run session = (sub.watchFor (session.script.length + 1)).run session := by
  unfold watch Endpoint.watch
  rw [StateT.run_bind]
  rfl

/-- A connection is made: the server's next two replies bring a stream and an answer. -/
structure Connects (before : Session) (connection : Connection) (after : Session) : Prop where
  opening : sub.opening? = some connection.opening
  stream : sub.endpoint.stream connection.opening before.next =
    .ok (connection.items, connection.staysOpen)
  question : sub.question? = some connection.question
  answer : sub.existence.answer sub.endpoint connection.question
    (before.asked connection.opening).next = .ok connection.exists?
  after : after = (before.asked connection.opening).asked connection.question

/-- A connection is not made: one of the two requests cannot be built or is not answered. -/
inductive Fails (before : Session) : Error → Session → Prop where
  | unopenable (hopening : sub.opening? = none) : Fails before (.api .badRequest) before
  | unopened {opening : Request} {error : Error} (hopening : sub.opening? = some opening)
      (hstream : sub.endpoint.stream opening before.next = .error error) :
      Fails before error (before.asked opening)
  | unaskable {opening : Request} {stream : List StreamItem × Bool}
      (hopening : sub.opening? = some opening)
      (hstream : sub.endpoint.stream opening before.next = .ok stream)
      (hquestion : sub.question? = none) :
      Fails before (.api .badRequest) (before.asked opening)
  | unanswered {opening question : Request} {stream : List StreamItem × Bool} {error : Error}
      (hopening : sub.opening? = some opening)
      (hstream : sub.endpoint.stream opening before.next = .ok stream)
      (hquestion : sub.question? = some question)
      (hanswer : sub.existence.answer sub.endpoint question (before.asked opening).next =
        .error error) :
      Fails before error ((before.asked opening).asked question)

/-- The connections that a watch makes from a session on, at most the given number, and its end. -/
inductive Runs : (count : Nat) → Session → List Connection → WatchEnd → Session → Prop where
  | cut (session : Session) : Runs 0 session [] .waiting session
  | failed {count : Nat} {session after : Session} {error : Error}
      (h : sub.Fails session error after) : Runs (count + 1) session [] (.failed error) after
  | lasting {count : Nat} {session after : Session} {connection : Connection}
      (h : sub.Connects session connection after) (hlasts : connection.lasts = true) :
      Runs (count + 1) session [connection] .waiting after
  | again {count : Nat} {session between after : Session} {connection : Connection}
      {connections : List Connection} {ending : WatchEnd}
      (h : sub.Connects session connection between) (hends : connection.lasts = false)
      (hrest : Runs count between connections ending after) :
      Runs (count + 1) session (connection :: connections) ending after

/-- How a watch stops behind its connections: it has failed, or it has made as many connections as
it may, or it waits on one that never ends. -/
def Stops (count : Nat) (connections : List Connection) (last after : Session) : WatchEnd → Prop
  | .failed error => sub.Fails last error after
  | .waiting =>
    after = last ∧ (connections.length = count ∨ ∃ connection ∈ connections, connection.lasts = true)

variable {sub} {count : Nat} {session after : Session} {connection : Connection}
  {connections : List Connection} {ending : WatchEnd} {error : Error}

theorem Connects.requests (h : sub.Connects session connection after) :
    after.requests = session.requests ++ connection.requests := by
  rw [h.after]
  simp [Connection.requests]

theorem connects_or_fails (sub : Subscription) (before : Session) :
    (∃ connection after, sub.Connects before connection after) ∨
      ∃ error after, sub.Fails before error after := by
  cases hopening : sub.opening? with
  | none => exact .inr ⟨_, _, .unopenable hopening⟩
  | some opening =>
    cases hstream : sub.endpoint.stream opening before.next with
    | error error => exact .inr ⟨_, _, .unopened hopening hstream⟩
    | ok stream =>
      cases hquestion : sub.question? with
      | none => exact .inr ⟨_, _, .unaskable hopening hstream hquestion⟩
      | some question =>
        cases hanswer :
            sub.existence.answer sub.endpoint question (before.asked opening).next with
        | error error => exact .inr ⟨_, _, .unanswered hopening hstream hquestion hanswer⟩
        | ok exists? =>
          exact .inl ⟨⟨opening, stream.1, stream.2, question, exists?⟩, _,
            hopening, hstream, hquestion, hanswer, rfl⟩

theorem run_watchOnce (sub : Subscription) (before : Session) :
    sub.watchOnce.run.run before =
      match (sub.endpoint.openWatch sub.params "0").run.run before with
      | (.error error, after) => (.error error, after)
      | (.ok (items, staysOpen), between) =>
        match (sub.existence.check sub.endpoint).run.run between with
        | (.error error, after) => (.error error, after)
        | (.ok exists?, after) =>
          (.ok (StreamItem.calls exists? items, staysOpen && !items.any fun
            | .failure _ => true
            | .event _ => false), after) := by
  unfold watchOnce Endpoint.watchOnce
  rw [Exchange.run_bind]
  rcases (sub.endpoint.openWatch sub.params "0").run.run before with ⟨result, between⟩
  cases result with
  | error error => rfl
  | ok stream =>
    dsimp only
    rw [Exchange.run_bind]
    rcases (sub.existence.check sub.endpoint).run.run between with ⟨result, after⟩
    cases result <;> rfl

theorem Connects.run_watchOnce (h : sub.Connects session connection after) :
    sub.watchOnce.run.run session = (.ok (connection.reports, connection.lasts), after) := by
  have hopen := sub.asks_opening
  have hcheck := sub.asks_question
  rw [h.opening] at hopen
  rw [h.question] at hcheck
  rw [Subscription.run_watchOnce, hopen.run_of_some, h.stream]
  dsimp only
  rw [hcheck.run_of_some, h.answer, h.after, ← connection.calls_eq_reports]
  rfl

theorem Fails.run_watchOnce (h : sub.Fails session error after) :
    sub.watchOnce.run.run session = (.error error, after) := by
  have hopen := sub.asks_opening
  have hcheck := sub.asks_question
  rw [Subscription.run_watchOnce]
  cases h with
  | unopenable hopening =>
    rw [hopening] at hopen
    rw [hopen.run_of_none]
  | unopened hopening hstream =>
    rw [hopening] at hopen
    rw [hopen.run_of_some, hstream]
  | unaskable hopening hstream hquestion =>
    rw [hopening] at hopen
    rw [hquestion] at hcheck
    rw [hopen.run_of_some, hstream]
    dsimp only
    rw [hcheck.run_of_none]
  | unanswered hopening hstream hquestion hanswer =>
    rw [hopening] at hopen
    rw [hquestion] at hcheck
    rw [hopen.run_of_some, hstream]
    dsimp only
    rw [hcheck.run_of_some, hanswer]

theorem run_watchFor_succ (sub : Subscription) (count : Nat) (session : Session) :
    (sub.watchFor (count + 1)).run session =
      match sub.watchOnce.run.run session with
      | (.error error, after) => (([], .failed error), after)
      | (.ok (calls, true), after) => ((calls, .waiting), after)
      | (.ok (calls, false), after) =>
        ((calls ++ ((sub.watchFor count).run after).1.1, ((sub.watchFor count).run after).1.2),
          ((sub.watchFor count).run after).2) := by
  unfold watchFor
  rw [Endpoint.watchFor]
  change ((sub.watchOnce.run : StateM Session _) >>= _).run session = _
  rw [StateT.run_bind]
  rcases sub.watchOnce.run.run session with ⟨result, after⟩
  cases result with
  | error error => rfl
  | ok outcome =>
    obtain ⟨calls, lasts⟩ := outcome
    cases lasts <;> rfl

/-- A run makes the calls that are due for its connections. -/
theorem Runs.run_watchFor (h : sub.Runs count session connections ending after) :
    (sub.watchFor count).run session =
      ((connections.flatMap Connection.reports, ending), after) := by
  induction h with
  | cut session => rfl
  | failed h => rw [run_watchFor_succ, h.run_watchOnce]; rfl
  | lasting h hlasts =>
    rw [run_watchFor_succ, h.run_watchOnce, hlasts, List.flatMap_singleton]
  | again h hends _ ih =>
    rw [run_watchFor_succ, h.run_watchOnce, hends]
    dsimp only
    rw [ih, List.flatMap_cons]

/-- Every watch has a run. -/
theorem exists_runs (sub : Subscription) (count : Nat) (session : Session) :
    ∃ connections ending after, sub.Runs count session connections ending after := by
  induction count generalizing session with
  | zero => exact ⟨_, _, _, .cut session⟩
  | succ count ih =>
    rcases sub.connects_or_fails session with ⟨connection, between, h⟩ | ⟨error, after, h⟩
    · cases hlasts : connection.lasts with
      | true => exact ⟨_, _, _, .lasting h hlasts⟩
      | false =>
        obtain ⟨connections, ending, after, hrest⟩ := ih between
        exact ⟨_, _, _, .again h hlasts hrest⟩
    · exact ⟨_, _, _, .failed h⟩

/-- Up to where it stops a run has sent the requests of its connections and no others. -/
theorem Runs.stops (h : sub.Runs count session connections ending after) :
    ∃ last : Session,
      last.requests = session.requests ++ connections.flatMap Connection.requests ∧
        sub.Stops count connections last after ending := by
  induction h with
  | cut session => exact ⟨session, by simp, rfl, .inl rfl⟩
  | @failed _ session _ _ h => exact ⟨session, by simp, h⟩
  | @lasting _ _ after connection h hlasts =>
    refine ⟨after, ?_, rfl, .inr ⟨connection, List.mem_singleton_self _, hlasts⟩⟩
    rw [h.requests, List.flatMap_singleton]
  | @again _ _ _ _ _ _ ending h hends _ ih =>
    obtain ⟨last, hlast, hstops⟩ := ih
    refine ⟨last, by rw [hlast, h.requests, List.flatMap_cons, List.append_assoc], ?_⟩
    cases ending with
    | failed error => exact hstops
    | waiting =>
      obtain ⟨hafter, hlength | ⟨connection, hmem, hlasts⟩⟩ := hstops
      · exact ⟨hafter, .inl (congrArg (· + 1) hlength)⟩
      · exact ⟨hafter, .inr ⟨connection, List.mem_cons_of_mem _ hmem, hlasts⟩⟩

/-! ## What a watch sends -/

section Sends

variable {P : Request → Prop} (hopening : ∀ request, sub.opening? = some request → P request)
  (hquestion : ∀ request, sub.question? = some request → P request)
include hopening hquestion

theorem sends_watchOnce : sub.watchOnce.Sends P := by
  apply Exchange.Sends.bind (sub.asks_opening.sends hopening)
  rintro ⟨items, staysOpen⟩
  exact .bind (sub.asks_question.sends hquestion) fun exists? ↦ .pure _

theorem sends_watchFor (count : Nat) (session : Session) :
    session.Extends P ((sub.watchFor count).run session).2 := by
  induction count generalizing session with
  | zero => exact .refl session
  | succ count ih =>
    have honce := sends_watchOnce hopening hquestion session
    rw [run_watchFor_succ]
    rcases hrun : sub.watchOnce.run.run session with ⟨result, after⟩
    rw [hrun] at honce
    cases result with
    | error error => exact honce
    | ok outcome =>
      obtain ⟨calls, lasts⟩ := outcome
      cases lasts with
      | true => exact honce
      | false => exact honce.trans (ih after)

/-- A watch sends the same two requests, however often it connects. -/
theorem sends_watch (session : Session) : session.Extends P (sub.watch.run session).2 := by
  rw [run_watch]
  exact sends_watchFor hopening hquestion _ session

end Sends

/-- A watch only reads. -/
theorem reads_watch (sub : Subscription) (session : Session) :
    session.Extends Request.Reads (sub.watch.run session).2 := by
  refine sends_watch (fun request hrequest ↦ (Request.build?_eq hrequest).1) ?_ session
  intro request hrequest
  unfold question? Existence.question? at hrequest
  split at hrequest
  · exact Endpoint.reads_of_getRequest? hrequest
  · exact Endpoint.reads_of_listRequest? hrequest

end Subscription

end ClusterObjects
