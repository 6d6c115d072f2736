import ClusterObjects.Proofs.Api.Mapper
import ClusterObjects.Proofs.Api.Twins
import ClusterObjects.Proofs.Dynamic.Place

/-!
# Attempts to write an object

A handler of any kind writes an object in two steps. It looks the kind of the object up, with a
request where the session does not know the kind yet, and then it sends the write. The server may
refuse either request because of a conflict, and the error of the attempt is the same for both. What
an attempt sends and how it fails is `DynamicHandler.Attempt`; the write itself can be told from
what the session knows in the end.
-/

namespace ClusterObjects

variable {α : Type}

/-- The answer is an error that says that something exists already. -/
def saysExists : Except Error α → Bool
  | .ok _ => false
  | .error error => error.isAlreadyExists

namespace Session

/-- The reply to the request that is sent after a number of others. -/
def reply (session : Session) (count : Nat) : Reply :=
  (session.script.drop count).head?.getD session.beyond

/-- Of requests that are sent one after another the last one is refused because of a conflict. -/
def Refuses (session : Session) (requests : List Request) : Prop :=
  ∃ last ∈ requests.getLast?, (session.reply (requests.length - 1)).isConflict last = true

@[simp] theorem reply_zero (session : Session) : session.reply 0 = session.next := rfl

@[simp] theorem not_refuses_nil (session : Session) : ¬ session.Refuses [] := by
  simp [Refuses]

@[simp] theorem refuses_append_singleton (session : Session) (front : List Request)
    (last : Request) :
    session.Refuses (front ++ [last]) ↔ (session.reply front.length).isConflict last = true := by
  simp [Refuses]

@[simp] theorem refuses_singleton (session : Session) (request : Request) :
    session.Refuses [request] ↔ session.next.isConflict request = true :=
  session.refuses_append_singleton [] request

end Session

/-! ## Conflicts and errors -/

/-- What is read in the body of a reply is no conflict. -/
theorem saysExists_value_bind {meaning : Json → Except Error α}
    (hmeaning : ∀ value, saysExists (meaning value) = false) (request : Request) (reply : Reply) :
    saysExists (reply.value request >>= meaning) = reply.isConflict request := by
  unfold Reply.value Reply.isConflict
  cases reply.result request with
  | error cause => rfl
  | ok body =>
    dsimp only
    cases Json.read? body with
    | none => rfl
    | some value => exact hmeaning value

theorem saysExists_decodedOr (value : Option α) : saysExists (decodedOr value) = false := by
  cases value <;> rfl

theorem Endpoint.saysExists_objectIn (endpoint : Endpoint) (request : Request) (reply : Reply) :
    saysExists (endpoint.objectIn request reply) = reply.isConflict request :=
  saysExists_value_bind (fun _ ↦ saysExists_decodedOr _) request reply

theorem Object.saysExists_gvk (object : Object) : saysExists object.gvk = false := by
  unfold gvk
  split
  · split <;> rfl
  · rfl

namespace Discovery

theorem saysExists_mappingIn (gvk : GroupVersionKind) (value : Json) :
    saysExists (mappingIn gvk value) = false := by
  unfold mappingIn
  have hlist := saysExists_decodedOr (ResourceList.ofJson? value)
  cases hdecoded : decodedOr (ResourceList.ofJson? value) with
  | error error =>
    rw [hdecoded] at hlist
    exact hlist
  | ok list =>
    dsimp only [bind, Except.bind]
    cases list.mapping? gvk.kind <;> rfl

/-- An error keeps its status when it is reported as one of the discovery. -/
theorem isAlreadyExists_wrapError (gvk : GroupVersionKind) (error : Error) :
    (wrapError gvk error).isAlreadyExists = error.isAlreadyExists := by
  cases error <;> rfl

end Discovery

/-! ## Looking the kind up -/

namespace Session

/-- How a kind is looked up: the requests for it, if there are any, and what the session knows
then. -/
structure LooksUp (gvk : GroupVersionKind) (before : Session) (answer : Except Error Mapping)
    (after : Session) (lookups : List Request) : Prop where
  requests : after.requests = before.requests ++ lookups
  next : after.next = before.reply lookups.length
  reads : ∀ request ∈ lookups, request.Reads
  remembers : before.Remembers after
  known : after.learned? gvk = answer.toOption
  refused : saysExists answer = true ↔ before.Refuses lookups

variable {gvk : GroupVersionKind} {before after : Session} {answer : Except Error Mapping}

/-- Nothing is asked where the kind is known, or where the request for it cannot be built. -/
theorem LooksUp.of_silence (hknown : before.learned? gvk = answer.toOption)
    (hanswer : saysExists answer = false) : LooksUp gvk before answer before [] := by
  refine ⟨(List.append_nil _).symm, rfl, nofun, .refl before, hknown, ?_⟩
  simp [hanswer]

theorem LooksUp.of_request {request : Request}
    (hsent : after.requests = before.requests ++ [request]) (hnext : after.next = before.reply 1)
    (hreads : before.Extends Request.Reads after) (hremembers : before.Remembers after)
    (hknown : after.learned? gvk = answer.toOption)
    (hanswer : saysExists answer = before.next.isConflict request) :
    LooksUp gvk before answer after [request] := by
  refine ⟨hsent, hnext, hreads.forall_mem hsent, hremembers, hknown, ?_⟩
  rw [refuses_singleton, hanswer]

theorem exists_looksUp (gvk : GroupVersionKind) (before : Session) :
    ∃ lookups, LooksUp gvk before ((Session.mapping gvk).run.run before).1
      ((Session.mapping gvk).run.run before).2 lookups := by
  have hreads := sends_mapping gvk before
  have hremembers := remembers_mapping gvk before
  rw [run_mapping] at hreads hremembers ⊢
  cases hknown : before.learned? gvk with
  | some mapping => exact ⟨[], .of_silence hknown rfl⟩
  | none =>
    rw [hknown] at hreads hremembers
    dsimp only at hreads hremembers ⊢
    rw [Discovery.asks_ask gvk before] at hreads hremembers ⊢
    cases hrequest : Discovery.request? gvk with
    | none => exact ⟨[], .of_silence hknown rfl⟩
    | some request =>
      have hconflict :=
        saysExists_value_bind (Discovery.saysExists_mappingIn gvk) request before.next
      have hsent := before.requests_asked request
      rw [hrequest] at hreads hremembers
      dsimp only at hreads hremembers ⊢
      cases hmeaning : before.next.value request >>= Discovery.mappingIn gvk with
      | ok found =>
        rw [hmeaning] at hreads hremembers hconflict
        have hlearned : ((before.asked request).learned gvk found).learned? gvk = some found := by
          rw [learned?_learned, if_pos rfl]
        exact ⟨[request], .of_request hsent rfl hreads hremembers hlearned hconflict⟩
      | error error =>
        rw [hmeaning] at hreads hremembers hconflict
        have hanswer := (Discovery.isAlreadyExists_wrapError gvk error).trans hconflict
        exact ⟨[request], .of_request hsent rfl hreads hremembers hknown hanswer⟩

end Session

namespace DynamicHandler

variable {handler : DynamicHandler} {object : Object} {before after known later : Session}
  {endpoint : Endpoint}

/-- The collection that an object belongs to, where its kind is known. -/
def place? (handler : DynamicHandler) (known : Session) (object : Object) : Option Endpoint :=
  match object.gvk with
  | .ok gvk => (known.learned? gvk).map (handler.endpoint · object.namespace?)
  | .error _ => none

/-- The request that creates an object, where its kind is known. -/
def creationAt? (handler : DynamicHandler) (known : Session) (object : Object) : Option Request :=
  (handler.place? known object).bind (handler.creation? · object)

/-- The request that replaces an object, where its kind is known. -/
def replacementAt? (handler : DynamicHandler) (known : Session) (object : Object) :
    Option Request :=
  (handler.place? known object).bind (handler.replacement? · object)

theorem collection?_eq_map (handler : DynamicHandler) (known : Session) (object : Object) :
    handler.collection? known object = (handler.place? known object).map (·.path) := by
  unfold collection? place?
  cases object.gvk with
  | error error => rfl
  | ok gvk => exact (Option.map_map ..).symm

theorem place?_eq_map {gvk : GroupVersionKind} (hgvk : object.gvk = .ok gvk) :
    handler.place? known object =
      (known.learned? gvk).map (handler.endpoint · object.namespace?) := by
  unfold place?
  rw [hgvk]

theorem place?_eq_some_iff :
    handler.place? known object = some endpoint ↔ ∃ gvk mapping, object.gvk = .ok gvk ∧
      known.learned? gvk = some mapping ∧
      handler.endpoint mapping object.namespace? = endpoint := by
  unfold place?
  cases object.gvk with
  | error error => simp
  | ok gvk => simp

theorem place?_of_remembers (h : handler.place? known object = some endpoint)
    (hremembers : known.Remembers later) : handler.place? later object = some endpoint := by
  obtain ⟨gvk, mapping, hgvk, hknown, hplace⟩ := place?_eq_some_iff.1 h
  exact place?_eq_some_iff.2 ⟨gvk, mapping, hgvk, hremembers gvk mapping hknown, hplace⟩

/-! ## Attempts -/

/-- An attempt to write an object: the requests that look its kind up, and then the write, if it
comes to that. -/
structure Attempt (handler : DynamicHandler) (object : Object)
    (request? : Endpoint → Option Request) (before : Session) (answer : Except Error Object)
    (after : Session) (lookups : List Request) (write? : Option Request) : Prop where
  requests : after.requests = before.requests ++ (lookups ++ write?.toList)
  reads : ∀ request ∈ lookups, request.Reads
  remembers : before.Remembers after
  write : write? = (handler.place? after object).bind request?
  answered : write? ≠ none → ¬ before.Refuses lookups
  refused : saysExists answer = true ↔ before.Refuses (lookups ++ write?.toList)
  failed : write? = none → ∃ error, answer = .error error

/-- An attempt that ends before anything is sent. -/
theorem Attempt.of_error {request? : Endpoint → Option Request} {error : Error}
    (hwrite : (handler.place? before object).bind request? = none)
    (herror : error.isAlreadyExists = false) :
    handler.Attempt object request? before (.error error) before [] none := by
  refine ⟨by simp, nofun, .refl before, hwrite.symm, nofun, ?_, fun _ ↦ ⟨error, rfl⟩⟩
  simp [saysExists, herror]

theorem run_gvk_bind (handler : DynamicHandler) (object : Object)
    (next : Endpoint → Exchange α) (session : Session) :
    (do
      let gvk ← Exchange.lift object.gvk
      let endpoint ← handler.endpointOf gvk object.namespace?
      next endpoint : Exchange α).run.run session =
      match object.gvk with
      | .error error => (.error error, session)
      | .ok gvk =>
        match (Session.mapping gvk).run.run session with
        | (.error error, after) => (.error error, after)
        | (.ok mapping, after) =>
          (next (handler.endpoint mapping object.namespace?)).run.run after := by
  rw [Exchange.run_lift_bind]
  cases object.gvk with
  | error error => rfl
  | ok gvk => exact handler.run_endpointOf_bind gvk object.namespace? next session

section Attempt

variable {request? : Endpoint → Option Request} {gvk : GroupVersionKind} {mapping : Mapping}
  {lookups : List Request}

/-- An attempt that does not find the kind. -/
theorem Attempt.of_lookup_error {error : Error} (hgvk : object.gvk = .ok gvk)
    (hlookup : before.LooksUp gvk (.error error) after lookups) :
    handler.Attempt object request? before (.error error) after lookups none := by
  have hunplaced : handler.place? after object = none := by
    rw [place?_eq_map hgvk, hlookup.known]
    rfl
  refine ⟨?_, hlookup.reads, hlookup.remembers, ?_, fun hwrite ↦ absurd rfl hwrite, ?_,
    fun _ ↦ ⟨error, rfl⟩⟩
  · simpa using hlookup.requests
  · rw [hunplaced]
    rfl
  · rw [Option.toList_none, List.append_nil, ← hlookup.refused]
    rfl

theorem not_refuses_of_looksUp (hlookup : before.LooksUp gvk (.ok mapping) after lookups) :
    ¬ before.Refuses lookups := by
  rw [← hlookup.refused]
  simp [saysExists]

/-- An attempt that finds the kind, but whose write cannot be built. -/
theorem Attempt.of_unbuildable (hlookup : before.LooksUp gvk (.ok mapping) after lookups)
    (hplace : handler.place? after object = some endpoint) (hrequest : request? endpoint = none) :
    handler.Attempt object request? before (.error (.api .badRequest)) after lookups none := by
  refine ⟨?_, hlookup.reads, hlookup.remembers, ?_, fun hwrite ↦ absurd rfl hwrite, ?_,
    fun _ ↦ ⟨_, rfl⟩⟩
  · simpa using hlookup.requests
  · rw [hplace]
    exact hrequest.symm
  · simpa [saysExists, Error.isAlreadyExists, Error.statusCode, ApiError.statusCode] using
      not_refuses_of_looksUp hlookup

/-- An attempt that comes to its write. -/
theorem Attempt.of_write {request : Request}
    (hlookup : before.LooksUp gvk (.ok mapping) after lookups)
    (hplace : handler.place? after object = some endpoint)
    (hrequest : request? endpoint = some request) :
    handler.Attempt object request? before (endpoint.objectIn request after.next)
      (after.asked request) lookups (some request) := by
  refine ⟨?_, hlookup.reads, hlookup.remembers.trans (.of_mappings_eq rfl), ?_,
    fun _ ↦ not_refuses_of_looksUp hlookup, ?_, fun hwrite ↦ absurd hwrite (Option.some_ne_none _)⟩
  · rw [Session.requests_asked, hlookup.requests, List.append_assoc]
    rfl
  · change some request = (handler.place? after object).bind request?
    rw [hplace]
    exact hrequest.symm
  · rw [endpoint.saysExists_objectIn, hlookup.next]
    exact (before.refuses_append_singleton lookups request).symm

/-- Looking the kind up and asking the collection is an attempt. -/
theorem exists_attempt_of_asks {next : Endpoint → Exchange Object}
    (hasks : ∀ endpoint : Endpoint, (next endpoint).Asks (request? endpoint) endpoint.objectIn)
    (before : Session) :
    let run := (do
      let gvk ← Exchange.lift object.gvk
      let endpoint ← handler.endpointOf gvk object.namespace?
      next endpoint : Exchange Object).run.run before
    ∃ lookups write?, handler.Attempt object request? before run.1 run.2 lookups write? := by
  intro run
  have hrun : run = _ := handler.run_gvk_bind object next before
  rw [hrun]
  cases hgvk : object.gvk with
  | error error =>
    have hunplaced : handler.place? before object = none := by
      unfold place?
      rw [hgvk]
    have herror : saysExists (.error error : Except Error GroupVersionKind) = false :=
      hgvk ▸ object.saysExists_gvk
    exact ⟨[], none, .of_error (by rw [hunplaced]; rfl) herror⟩
  | ok gvk =>
    obtain ⟨lookups, hlookup⟩ := Session.exists_looksUp gvk before
    dsimp only
    rcases hmapping : (Session.mapping gvk).run.run before with ⟨result, between⟩
    rw [hmapping] at hlookup
    cases result with
    | error error => exact ⟨lookups, none, .of_lookup_error hgvk hlookup⟩
    | ok mapping =>
      let endpoint := handler.endpoint mapping object.namespace?
      have hplace : handler.place? between object = some endpoint :=
        place?_eq_some_iff.2 ⟨gvk, mapping, hgvk, hlookup.known, rfl⟩
      dsimp only
      rw [hasks endpoint between]
      cases hrequest : request? endpoint with
      | none => exact ⟨lookups, none, .of_unbuildable hlookup hplace hrequest⟩
      | some request => exact ⟨lookups, some request, .of_write hlookup hplace hrequest⟩

end Attempt

theorem exists_attempt_createObject (handler : DynamicHandler) (object : Object)
    (before : Session) :
    ∃ lookups write?, handler.Attempt object (handler.creation? · object) before
      ((handler.createObject object).run.run before).1
      ((handler.createObject object).run.run before).2 lookups write? :=
  exists_attempt_of_asks (fun endpoint ↦ endpoint.asks_create _ _) before

theorem exists_attempt_updateObject (handler : DynamicHandler) (object : Object)
    (before : Session) :
    ∃ lookups write?, handler.Attempt object (handler.replacement? · object) before
      ((handler.updateObject object).run.run before).1
      ((handler.updateObject object).run.run before).2 lookups write? := by
  unfold updateObject replacement?
  cases object.name? with
  | none =>
    refine ⟨[], none, .of_error ?_ rfl⟩
    cases handler.place? before object <;> rfl
  | some name => exact exists_attempt_of_asks (fun endpoint ↦ endpoint.asks_replace _ _ _) before

/-! ## The writes -/

/-- A request that writes an object with a method, to a path as far as that is whole. -/
structure Writes (object : Object) (method : Method) (path : String) (request : Request) :
    Prop where
  method : request.method = method
  body : request.body = some object.sentValue
  path : request.path = Request.cut path

theorem Writes.of_build? {method : Method} {path : String} {query : List (String × String)}
    {contentType : Option String} {request : Request}
    (h : Request.build? method path query contentType (some object.withoutServerFields.toJson) =
      some request) : Writes object method path request := by
  obtain ⟨hmethod, -, hbody⟩ := Request.build?_eq h
  exact ⟨hmethod, object.toJson_withoutServerFields ▸ hbody, Request.path_of_build? h⟩

/-- An object is created at the path of its collection. -/
theorem writes_of_creationAt? {post : Request} (h : handler.creationAt? known object = some post) :
    ∃ path, handler.collection? known object = some path ∧ Writes object .post path post := by
  obtain ⟨endpoint, hplace, hpost⟩ := Option.bind_eq_some_iff.1 h
  obtain ⟨-, hbuild⟩ := (Option.ite_none_right_eq_some ..).1 hpost
  refine ⟨endpoint.path, ?_, .of_build? hbuild⟩
  rw [collection?_eq_map, hplace]
  rfl

/-- An object is replaced at its own path. -/
theorem writes_of_replacementAt? {put : Request}
    (h : handler.replacementAt? known object = some put) :
    ∃ path, handler.objectPath? known object = some path ∧ Writes object .put path put := by
  obtain ⟨endpoint, hplace, hput⟩ := Option.bind_eq_some_iff.1 h
  obtain ⟨name, hname, hrequest⟩ := Option.bind_eq_some_iff.1 hput
  obtain ⟨path, hpath, hbuild⟩ := Option.bind_eq_some_iff.1 hrequest
  obtain ⟨hnonempty, rfl⟩ := Endpoint.objectPath?_eq_some_iff.1 hpath
  have hown : object.ownName? = some name :=
    Option.bind_eq_some_iff.2 ⟨name, hname, nonEmpty?_eq_some_iff.2 ⟨hnonempty, rfl⟩⟩
  have hcollection : handler.collection? known object = some endpoint.path := by
    rw [collection?_eq_map, hplace]
    rfl
  exact ⟨_, objectPath?_eq_some_iff.2 ⟨_, _, hcollection, hown, rfl⟩, .of_build? hbuild⟩

end DynamicHandler

end ClusterObjects
