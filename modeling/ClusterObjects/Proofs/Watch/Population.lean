import ClusterObjects.Proofs.Handler.Watch
import Mathlib.Data.Set.Insert

/-!
# One flag for many objects

A watch by a selector may be of many objects, and a dispatcher keeps one flag for all of them. Every
deletion clears it, whether other objects are left or not. So the flag says whether a watched object
is live, but for one case: behind a deletion it is cleared until the next addition or modification,
and an addition that follows is reported even if it joins objects that are live.
-/

namespace ClusterObjects

namespace WatchEvent

/-- The flag of a dispatcher after some events. -/
def knownAfter (exists? : Bool) (events : List WatchEvent) : Bool :=
  events.foldl (fun known event ↦ (event.dispatch known).2) exists?

/-- The last change among some events is a deletion. -/
def EndsInDeletion (events : List WatchEvent) : Prop :=
  ∃ object, (events.filter isChange).getLast? = some (.deleted object)

theorem endsInDeletion_concat (events : List WatchEvent) (event : WatchEvent) :
    EndsInDeletion (events ++ [event]) ↔
      match event with
      | .deleted _ => True
      | .added _ | .modified _ => False
      | .bookmark _ | .error _ => EndsInDeletion events := by
  unfold EndsInDeletion
  rw [List.filter_append]
  cases event <;> simp [isChange]

/-! ## The live objects -/

variable {ι : Type} (identity : Object → ι)

/-- The live objects after an event, each known by its identity. An addition may report an object
that is live already. -/
def population (live : Set ι) : WatchEvent → Set ι
  | added object => insert (identity object) live
  | deleted object => live \ {identity object}
  | modified _ | bookmark _ | error _ => live

/-- An event may be reported of the live objects: what it changes or deletes is one of them. -/
def Concerns (live : Set ι) : WatchEvent → Prop
  | modified object | deleted object => identity object ∈ live
  | added _ | bookmark _ | error _ => True

def populationAfter (live : Set ι) (events : List WatchEvent) : Set ι :=
  events.foldl (population identity) live

/-- The events report, one after another, what happens to the live objects. -/
def Consistent (live : Set ι) : List WatchEvent → Prop
  | [] => True
  | event :: rest => Concerns identity live event ∧ Consistent (population identity live event) rest

variable {identity}

theorem Consistent.begun {live : Set ι} {earlier events : List WatchEvent}
    (h : Consistent identity live events) (hearlier : earlier <+: events) :
    Consistent identity live earlier := by
  induction earlier generalizing live events with
  | nil => trivial
  | cons event earlier ih =>
    obtain ⟨later, rfl⟩ := hearlier
    exact ⟨h.1, ih h.2 (List.prefix_append earlier later)⟩

/-- The flag says whether there is a live object and the last change was no deletion; an event keeps
this so. -/
theorem dispatch_known_iff {known : Bool} {live : Set ι} {earlier : List WatchEvent}
    {event : WatchEvent} (hknown : known = true ↔ live.Nonempty ∧ ¬ EndsInDeletion earlier)
    (hconcerns : Concerns identity live event) :
    (event.dispatch known).2 = true ↔
      (population identity live event).Nonempty ∧ ¬ EndsInDeletion (earlier ++ [event]) := by
  rw [endsInDeletion_concat]
  cases event with
  | added object =>
    exact iff_of_true rfl ⟨Set.insert_nonempty (identity object) live, not_false⟩
  | modified object => exact iff_of_true rfl ⟨⟨identity object, hconcerns⟩, not_false⟩
  | deleted object => exact iff_of_false Bool.false_ne_true fun h ↦ h.2 trivial
  | bookmark version => exact hknown
  | error cause => exact hknown

theorem knownAfter_iff_of_earlier {known : Bool} {live : Set ι} {earlier events : List WatchEvent}
    (hknown : known = true ↔ live.Nonempty ∧ ¬ EndsInDeletion earlier)
    (hevents : Consistent identity live events) :
    knownAfter known events = true ↔
      (populationAfter identity live events).Nonempty ∧ ¬ EndsInDeletion (earlier ++ events) := by
  induction events generalizing known live earlier with
  | nil => rwa [List.append_nil]
  | cons event rest ih =>
    rw [List.append_cons]
    exact ih (dispatch_known_iff hknown hevents.1) hevents.2

/-- After consistent events the flag says whether there is a live object, except behind a
deletion. -/
theorem knownAfter_iff {exists? : Bool} {live : Set ι} {events : List WatchEvent}
    (hanswer : exists? = true ↔ live.Nonempty) (hevents : Consistent identity live events) :
    knownAfter exists? events = true ↔
      (populationAfter identity live events).Nonempty ∧ ¬ EndsInDeletion events := by
  have hstart : ¬ EndsInDeletion [] := fun ⟨_, h⟩ ↦ nomatch h
  exact knownAfter_iff_of_earlier (hanswer.trans (and_iff_left hstart).symm) hevents

/-- An addition is called only for the event of one, and only when the flag is cleared. -/
theorem add_mem_dispatch_iff (known : Bool) (event : WatchEvent) (object : Object) :
    .add object ∈ (event.dispatch known).1 ↔ event = .added object ∧ known = false := by
  cases event with
  | added other => cases known <;> simp [dispatch, eq_comm]
  | modified other | deleted other | bookmark version | error cause => simp [dispatch]

end WatchEvent

open WatchEvent (knownAfter EndsInDeletion populationAfter Consistent dispatchAll)

/-- A connection tells the truth about many objects: the answer says whether any was live at the
start, and the events report what happened to them. -/
structure Connection.Follows {ι : Type} (identity : Object → ι) (live : Set ι)
    (connection : Connection) : Prop where
  answer : connection.exists? = true ↔ live.Nonempty
  events : Consistent identity live connection.events

/-- A watch makes the calls of its connections. On each connection that tells the truth about the
watched objects, the flag is set after each event exactly when an object is live and the last change
was no deletion. So an addition is called exactly for an event of one before which no object was
live or the last change was a deletion. -/
theorem watch_flag_iff_population {ι : Type} (identity : Object → ι) (order : WatchOrder)
    {session ready : Session} {sub : Subscription}
    (hprepare : order.prepare.run.run session = (.ok sub, ready))
    {connections : List Connection} {ending : WatchEnd} {after : Session}
    (hruns : sub.Runs (ready.script.length + 1) ready connections ending after) :
    order.perform.run session =
        ((connections.flatMap fun c ↦ dispatchAll c.exists? c.events, ending), after) ∧
      ∀ connection ∈ connections, ∀ live : Set ι, connection.Follows identity live →
        ∀ earlier, earlier <+: connection.events →
          (knownAfter connection.exists? earlier = true ↔
            (populationAfter identity live earlier).Nonempty ∧ ¬ EndsInDeletion earlier) ∧
          ∀ event object, earlier ++ [event] <+: connection.events →
            (.add object ∈ (event.dispatch (knownAfter connection.exists? earlier)).1 ↔
              event = .added object ∧
                (populationAfter identity live earlier = ∅ ∨ EndsInDeletion earlier)) := by
  constructor
  · have hreports : Connection.reports = fun c ↦ dispatchAll c.exists? c.events :=
      funext Connection.reports_eq_dispatchAll
    rw [order.run_perform_of_runs hprepare hruns, hreports]
  · intro connection _ live hfollows earlier hearlier
    have hknown :=
      WatchEvent.knownAfter_iff hfollows.answer (hfollows.events.begun hearlier)
    refine ⟨hknown, fun event object _ ↦ ?_⟩
    rw [WatchEvent.add_mem_dispatch_iff, Bool.eq_false_iff, Ne, hknown, not_and_or,
      Set.not_nonempty_iff_eq_empty, not_not]

/-! ## A story of three objects -/

namespace Population

def settings (name : String) : Object :=
  ⟨some Kind.configMap.typeMeta, [("name", .str name)], []⟩

/-- The object as it stands in the stream, without its type. -/
def untyped (name : String) : Object := ⟨none, [("name", .str name)], []⟩

def order : WatchOrder := .byLabel (Handler.new .configMap "apps") "app=web"

def subscription : Subscription :=
  .ofLabel (Handler.new .configMap "apps").endpoint {} "app=web"

/-- The first of two objects is deleted, and then a third one is added. -/
def session : Session where
  script := [
    .ofEvents [("ADDED", untyped "a"), ("ADDED", untyped "b"), ("DELETED", untyped "a"),
      ("ADDED", untyped "c")],
    .ofValue 200 (.obj [("items", .arr [])]), .abort]

def connection : Connection where
  opening := ⟨.get, "/api/v1/namespaces/apps/configmaps",
    [("watch", "true"), ("timeoutSeconds", "290"), ("labelSelector", "app=web"),
      ("allowWatchBookmarks", "true"), ("resourceVersion", "0")], none, none⟩
  items := [.event (.added (settings "a")), .event (.added (settings "b")),
    .event (.deleted (settings "a")), .event (.added (settings "c"))]
  staysOpen := false
  question := ⟨.get, "/api/v1/namespaces/apps/configmaps",
    [("labelSelector", "app=web"), ("limit", "1")], none, none⟩
  exists? := false

theorem runs_story :
    ∃ after, subscription.Runs (session.script.length + 1) session [connection]
      (.failed (.api .connection)) after := by
  change ∃ after, subscription.Runs 4 _ _ _ after
  have hopening : subscription.opening? = some connection.opening := by decide +kernel
  have hquestion : subscription.question? = some connection.question := by decide +kernel
  have hstream : subscription.endpoint.stream connection.opening session.next =
      .ok (connection.items, false) := by
    decide +kernel
  have hanswer : subscription.existence.answer subscription.endpoint connection.question
      (session.asked connection.opening).next = .ok false := by
    decide +kernel
  exact ⟨_, .again ⟨hopening, hstream, hquestion, hanswer, rfl⟩ rfl
    (.failed (.unopened hopening rfl))⟩

/-- Nothing was live at the question, and what is deleted was added before. -/
theorem follows_story : connection.Follows Object.name? ∅ where
  answer := iff_of_false Bool.false_ne_true Set.not_nonempty_empty
  events := by
    have ha : (settings "a").name? ∈
        insert (settings "b").name? (insert (settings "a").name? (∅ : Set _)) :=
      Set.mem_insert_of_mem _ (Set.mem_insert _ _)
    exact ⟨trivial, trivial, ha, trivial, trivial⟩

/-- The flag follows the objects up to the deletion, and the third object is reported. -/
theorem watch_flag_of_three :
    ∃ after,
      order.prepare.run.run session = (.ok subscription, session) ∧
        subscription.Runs (session.script.length + 1) session [connection]
          (.failed (.api .connection)) after ∧
        connection.Follows Object.name? ∅ ∧
        order.perform.run session =
          (([.add (settings "a"), .delete (settings "a"), .add (settings "c")],
            .failed (.api .connection)), after) ∧
        knownAfter false (connection.events.take 2) = true ∧
        .add (settings "c") ∈ ((WatchEvent.added (settings "c")).dispatch
          (knownAfter false (connection.events.take 3))).1 := by
  have hprepare : order.prepare.run.run session = (.ok subscription, session) := rfl
  obtain ⟨after, hruns⟩ := runs_story
  have hcalls : [connection].flatMap (fun c ↦ dispatchAll c.exists? c.events) =
      [.add (settings "a"), .delete (settings "a"), .add (settings "c")] := by
    decide +kernel
  have hlive : (populationAfter Object.name? ∅ (connection.events.take 2)).Nonempty :=
    Set.insert_nonempty _ _
  have hlast : ¬ EndsInDeletion (connection.events.take 2) := fun ⟨_, h⟩ ↦ nomatch h
  have hdeleted : EndsInDeletion (connection.events.take 3) := ⟨settings "a", rfl⟩
  obtain ⟨hrun, hflags⟩ := watch_flag_iff_population Object.name? order hprepare hruns
  rw [hcalls] at hrun
  have hflag := hflags connection List.mem_cons_self ∅ follows_story
  have htwo := (hflag (connection.events.take 2) (List.take_prefix _ _)).1
  have hadd := (hflag (connection.events.take 3) (List.take_prefix _ _)).2 (.added (settings "c"))
    (settings "c") (List.take_prefix 4 connection.events)
  exact ⟨after, hprepare, hruns, follows_story, hrun, htwo.2 ⟨hlive, hlast⟩,
    hadd.2 ⟨rfl, .inr hdeleted⟩⟩

/-- The second object is live behind the deletion of the first one, but the flag is cleared, and the
third object is reported as if it were alone. -/
theorem exists_flag_cleared_with_live :
    ∃ told connections after, ∃ connection ∈ connections, ∃ earlier event,
      subscription.Runs (told.script.length + 1) told connections (.failed (.api .connection))
        after ∧
      connection.Follows Object.name? ∅ ∧ earlier ++ [event] <+: connection.events ∧
        (settings "b").name? ∈ populationAfter Object.name? ∅ earlier ∧
        knownAfter connection.exists? earlier = false ∧
        (event.dispatch (knownAfter connection.exists? earlier)).1 = [.add (settings "c")] := by
  obtain ⟨after, hruns⟩ := runs_story
  have hlive : (settings "b").name? ∈
      populationAfter Object.name? ∅ (connection.events.take 3) := by
    change _ ∈ insert (settings "b").name? (insert (settings "a").name? (∅ : Set _)) \
      {(settings "a").name?}
    exact ⟨Set.mem_insert _ _, by decide +kernel⟩
  exact ⟨session, [connection], after, connection, List.mem_cons_self, connection.events.take 3,
    .added (settings "c"), hruns, follows_story, List.take_prefix 4 connection.events, hlive, rfl,
    rfl⟩

end Population

end ClusterObjects
