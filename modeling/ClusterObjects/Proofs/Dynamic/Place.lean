import ClusterObjects.Proofs.Api.Mapping
import ClusterObjects.Proofs.Dynamic.Sends
import ClusterObjects.Proofs.Handler.Apply

/-!
# Places of objects

A handler of any kind finds the collection of an object by the object's kind. What it writes when an
application or a deletion succeeds goes to that collection and to the object's own path in it. The
places can be told from what the session knows in the end, since nothing that is known is forgotten.
-/

namespace ClusterObjects

/-! ## What a session has sent since -/

namespace Session.Extends

variable {P : Request → Prop} {before after : Session} {part : List Request}

theorem forall_mem (h : before.Extends P after) (hpart : after.requests = before.requests ++ part) :
    ∀ request ∈ part, P request := by
  obtain ⟨sent, hsent, hall⟩ := h
  have hreverse : sent.reverse = part := by
    unfold requests at hpart
    rw [hsent, List.reverse_append] at hpart
    exact List.append_cancel_left hpart
  intro request hmem
  exact hall request (List.mem_reverse.1 (hreverse ▸ hmem))

theorem exists_part (h : before.Extends P after) :
    ∃ part, after.requests = before.requests ++ part := by
  obtain ⟨sent, hsent, -⟩ := h
  refine ⟨sent.reverse, ?_⟩
  unfold requests
  rw [hsent, List.reverse_append]

/-- The last of the requests that were sent, and those before it. -/
theorem exists_front (h : before.Extends P after) {last : Request}
    (hpart : (after.asked last).requests = before.requests ++ part) :
    ∃ front, part = front ++ [last] ∧ ∀ request ∈ front, P request := by
  obtain ⟨front, hfront⟩ := h.exists_part
  refine ⟨front, ?_, h.forall_mem hfront⟩
  rw [requests_asked, hfront, List.append_assoc] at hpart
  exact (List.append_cancel_left hpart).symm

end Session.Extends

namespace DynamicHandler

variable {handler : DynamicHandler} {object : Object} {before after known : Session}

/-- The path of an object, where its kind is known. -/
def objectPath? (handler : DynamicHandler) (known : Session) (object : Object) : Option String :=
  match handler.collection? known object, object.ownName? with
  | some collection, some name => some (collection ++ "/" ++ name)
  | _, _ => none

/-- The request that creates an object in a collection. -/
def creation? (handler : DynamicHandler) (endpoint : Endpoint) (object : Object) : Option Request :=
  endpoint.createRequest? handler.options.post object.withoutServerFields

/-- The request that replaces an object in a collection. -/
def replacement? (handler : DynamicHandler) (endpoint : Endpoint) (object : Object) :
    Option Request := do
  endpoint.replaceRequest? (← object.name?) handler.options.post object.withoutServerFields

/-- How far an operation on one object has come: it has found the place of the object's kind and
then asked the server, or it has failed before it could. -/
inductive Reaches (object : Object) (before : Session) (place : Mapping → Endpoint)
    (request? : Endpoint → Option Request) : Except Error Object → Session → Prop where
  | failed {error : Error} {after : Session} (hremembers : before.Remembers after)
      (hreads : before.Extends Request.Reads after) :
      Reaches object before place request? (.error error) after
  | asked {gvk : GroupVersionKind} {mapping : Mapping} {between : Session} {request : Request}
      {answer : Except Error Object} (hgvk : object.gvk = .ok gvk)
      (hfinds : Session.Finds gvk mapping before between)
      (hrequest : request? (place mapping) = some request) :
      Reaches object before place request? answer (between.asked request)

/-- An operation that looks the object's kind up and then asks the collection. -/
theorem reaches_of_asks {next : Endpoint → Exchange Object} {request? : Endpoint → Option Request}
    {meaning : Endpoint → Request → Reply → Except Error Object}
    (hasks : ∀ endpoint, (next endpoint).Asks (request? endpoint) (meaning endpoint))
    (before : Session) :
    let run := (do
      let gvk ← Exchange.lift object.gvk
      let endpoint ← handler.endpointOf gvk object.namespace?
      next endpoint : Exchange Object).run.run before
    Reaches object before (handler.endpoint · object.namespace?) request? run.1 run.2 := by
  intro run
  have hrun : run = _ := Exchange.run_lift_bind object.gvk _ before
  rw [hrun]
  cases hgvk : object.gvk with
  | error error => exact .failed (.refl before) (.refl before)
  | ok gvk =>
    have hremembers := Session.remembers_mapping gvk before
    have hreads := Session.sends_mapping gvk before
    dsimp only
    rw [run_endpointOf_bind]
    rcases hmapping : (Session.mapping gvk).run.run before with ⟨result, between⟩
    rw [hmapping] at hremembers hreads
    cases result with
    | error error => exact .failed hremembers hreads
    | ok mapping =>
      let endpoint := handler.endpoint mapping object.namespace?
      dsimp only
      rw [hasks endpoint between]
      cases hrequest : request? endpoint with
      | none => exact .failed hremembers hreads
      | some request => exact .asked hgvk (Session.finds_of_run_mapping hmapping) hrequest

theorem reaches_createObject (handler : DynamicHandler) (object : Object) (before : Session) :
    Reaches object before (handler.endpoint · object.namespace?) (handler.creation? · object)
      ((handler.createObject object).run.run before).1
      ((handler.createObject object).run.run before).2 :=
  reaches_of_asks (fun endpoint ↦ endpoint.asks_create _ _) before

theorem reaches_updateObject (handler : DynamicHandler) (object : Object) (before : Session) :
    Reaches object before (handler.endpoint · object.namespace?) (handler.replacement? · object)
      ((handler.updateObject object).run.run before).1
      ((handler.updateObject object).run.run before).2 := by
  unfold updateObject replacement?
  cases object.name? with
  | none => exact .failed (.refl before) (.refl before)
  | some name => exact reaches_of_asks (fun endpoint ↦ endpoint.asks_replace _ _ _) before

/-! ## Operations that have succeeded -/

/-- A request that creates an object in a collection or replaces it there. -/
def Addressing (handler : DynamicHandler) (endpoint : Endpoint) (object : Object)
    (request : Request) : Prop :=
  handler.creation? endpoint object = some request ∨
    handler.replacement? endpoint object = some request

/-- What an object was sent that has been applied: requests that look its kind up, and such as
address it, one of them the last. -/
inductive Applied (handler : DynamicHandler) (object : Object) (before : Session) :
    Session → Prop where
  | intro {gvk : GroupVersionKind} {mapping : Mapping} {between : Session} {last : Request}
      (hgvk : object.gvk = .ok gvk) (hknown : between.learned? gvk = some mapping)
      (hremembers : before.Remembers between)
      (hsent : before.Extends (fun request ↦ request.Reads ∨
        handler.Addressing (handler.endpoint mapping object.namespace?) object request) between)
      (hlast : handler.Addressing (handler.endpoint mapping object.namespace?) object last) :
      Applied handler object before (between.asked last)

theorem applied_of_run {value : Object}
    (h : (handler.apply (.object object)).run.run before = (.ok value, after)) :
    Applied handler object before after := by
  have hcreate := reaches_createObject handler object before
  change (handler.applyObject object).run.run before = _ at h
  unfold applyObject at h
  rw [Exchange.run_tryCatch] at h
  rcases hrun : (handler.createObject object).run.run before with ⟨answer, middle⟩
  rw [hrun] at h hcreate
  cases answer with
  | ok created =>
    cases h
    cases hcreate with
    | asked hgvk hfinds hpost =>
      exact .intro hgvk hfinds.known hfinds.remembers (hfinds.reads.mono fun _ ↦ .inl)
        (.inl hpost)
  | error error =>
    dsimp only at h
    by_cases hexists : error.isAlreadyExists = true
    · have hupdate := reaches_updateObject handler object middle
      rw [if_pos hexists] at h
      rw [h] at hupdate
      cases hupdate with
      | @asked gvk mapping between put _ hgvk hfinds hput =>
        have hfound : middle.Extends (fun request ↦ request.Reads ∨
            handler.Addressing (handler.endpoint mapping object.namespace?) object request)
            between := hfinds.reads.mono fun _ ↦ .inl
        cases hcreate with
        | failed hremembers hreads =>
          exact .intro hgvk hfinds.known (hremembers.trans hfinds.remembers)
            ((hreads.mono fun _ ↦ .inl).trans hfound) (.inr hput)
        | @asked other place first post _ hother hfirst hpost =>
          obtain rfl : other = gvk := Except.ok.inj (hother.symm.trans hgvk)
          have hplace : between.learned? other = some place :=
            hfinds.remembers other place hfirst.known
          obtain rfl : place = mapping := Option.some.inj (hplace.symm.trans hfinds.known)
          have hposted : first.Extends (fun request ↦ request.Reads ∨
              handler.Addressing (handler.endpoint place object.namespace?) object request)
              (first.asked post) := .send first (.inr (.inl hpost))
          exact .intro hgvk hfinds.known (hfirst.remembers.trans hfinds.remembers)
            (((hfirst.reads.mono fun _ ↦ .inl).trans hposted).trans hfound) (.inr hput)
    · rw [if_neg hexists] at h
      cases h

/-- What an object was sent that has been deleted. -/
inductive Deleted (handler : DynamicHandler) (object : Object) (before : Session) :
    Session → Prop where
  | intro {gvk : GroupVersionKind} {mapping : Mapping} {between : Session} {name : String}
      {last : Request} (hgvk : object.gvk = .ok gvk)
      (hfinds : Session.Finds gvk mapping before between) (hname : object.ownName? = some name)
      (hlast : (handler.endpoint mapping object.namespace?).deleteRequest? name
        (handler.deleteParams gvk.kind) = some last) :
      Deleted handler object before (between.asked last)

theorem deleted_of_run (h : (handler.delete (.object object)).run.run before = (.ok (), after)) :
    Deleted handler object before after := by
  change (handler.locateObject object >>= fun located ↦
    located.2.1.delete located.2.2 (handler.deleteParams located.1.kind)).run.run before = _ at h
  unfold locateObject at h
  rw [Exchange.run_bind, Exchange.run_lift_bind, object.requiredName_eq] at h
  cases hname : object.ownName? with
  | none =>
    rw [hname] at h
    cases h
  | some name =>
    rw [hname] at h
    dsimp only at h
    rw [Exchange.run_lift_bind] at h
    cases hgvk : object.gvk with
    | error error =>
      rw [hgvk] at h
      cases h
    | ok gvk =>
      rw [hgvk] at h
      dsimp only at h
      unfold endpointOf at h
      rw [Exchange.run_bind, Exchange.run_bind] at h
      rcases hmapping : (Session.mapping gvk).run.run before with ⟨result, between⟩
      rw [hmapping] at h
      cases result with
      | error error => cases h
      | ok mapping =>
        let endpoint := handler.endpoint mapping object.namespace?
        have hasks := endpoint.asks_delete name (handler.deleteParams gvk.kind) between
        change (endpoint.delete name (handler.deleteParams gvk.kind)).run.run between = _ at h
        rw [hasks] at h
        cases hlast : endpoint.deleteRequest? name (handler.deleteParams gvk.kind) with
        | none =>
          rw [hlast] at h
          cases h
        | some last =>
          rw [hlast] at h
          obtain rfl := congrArg Prod.snd h
          exact .intro hgvk (Session.finds_of_run_mapping hmapping) hname hlast

/-! ## The paths of what was sent -/

theorem objectPath?_eq_some_iff {path : String} :
    handler.objectPath? known object = some path ↔
      ∃ collection name, handler.collection? known object = some collection ∧
        object.ownName? = some name ∧ collection ++ "/" ++ name = path := by
  unfold objectPath?
  cases handler.collection? known object with
  | none => simp
  | some collection =>
    cases object.ownName? with
    | none => simp
    | some name => simp

theorem name?_of_ownName? {name : String} (h : object.ownName? = some name) :
    object.name? = some name := by
  obtain ⟨given, hgiven, hname⟩ := Option.bind_eq_some_iff.1 h
  obtain ⟨-, rfl⟩ := nonEmpty?_eq_some_iff.1 hname
  exact hgiven

/-- What addresses an object goes to its collection or to its own path there, when nothing ends that
path early. -/
theorem Addressing.path {endpoint : Endpoint} {request : Request} {name : String}
    (h : handler.Addressing endpoint object request) (hname : object.ownName? = some name)
    (hwhole : Request.IsWhole (endpoint.path ++ "/" ++ name)) :
    request.method = .post ∧ request.path = endpoint.path ∨
      request.method = .put ∧ request.path = endpoint.path ++ "/" ++ name := by
  rcases h with hpost | hput
  · have hcollection : Request.IsWhole endpoint.path :=
      (Request.isWhole_append.1 (Request.isWhole_append.1 hwhole).1).1
    obtain ⟨-, hbuild⟩ := (Option.ite_none_right_eq_some ..).1 hpost
    rw [Request.build?_of_isWhole hcollection hbuild]
    exact .inl ⟨rfl, rfl⟩
  · obtain ⟨given, hgiven, hrequest⟩ := Option.bind_eq_some_iff.1 hput
    obtain rfl : name = given := Option.some.inj ((name?_of_ownName? hname).symm.trans hgiven)
    obtain ⟨path, hpath, hbuild⟩ := Option.bind_eq_some_iff.1 hrequest
    obtain ⟨-, rfl⟩ := Endpoint.objectPath?_eq_some_iff.1 hpath
    rw [Request.build?_of_isWhole hwhole hbuild]
    exact .inr ⟨rfl, rfl⟩

/-- The requests look a kind up and write an object: to its collection when it is created, and to
its own path when it is replaced. -/
structure Addresses (handler : DynamicHandler) (known : Session) (object : Object)
    (requests : List Request) : Prop where
  exists_write : ∃ write ∈ requests, write.method ≠ .get
  path : ∀ request ∈ requests, request.method = .get ∨
    request.method = .post ∧ handler.collection? known object = some request.path ∨
      request.method = .put ∧ handler.objectPath? known object = some request.path

/-- The requests look a kind up and then delete an object at its own path. -/
inductive Removes (handler : DynamicHandler) (known : Session) (object : Object) :
    List Request → Prop where
  | intro {lookups : List Request} {last : Request}
      (hlookups : ∀ request ∈ lookups, request.method = .get) (hmethod : last.method = .delete)
      (hpath : handler.objectPath? known object = some last.path) :
      Removes handler known object (lookups ++ [last])

variable {part : List Request} {path : String}

theorem Applied.remembers (h : Applied handler object before after) : before.Remembers after := by
  obtain ⟨-, -, hremembers, -, -⟩ := h
  exact hremembers.trans (.of_mappings_eq rfl)

theorem Deleted.remembers (h : Deleted handler object before after) : before.Remembers after := by
  obtain ⟨-, hfinds, -, -⟩ := h
  exact hfinds.remembers.trans (.of_mappings_eq rfl)

theorem Applied.addresses (h : Applied handler object before after)
    (hremembers : after.Remembers known) (hpart : after.requests = before.requests ++ part)
    (hpath : handler.objectPath? known object = some path) (hwhole : Request.IsWhole path) :
    handler.Addresses known object part := by
  obtain @⟨gvk, mapping, between, last, hgvk, hknown, -, hsent, hlast⟩ := h
  obtain ⟨collection, name, hcollection, hname, rfl⟩ := objectPath?_eq_some_iff.1 hpath
  have hplace := handler.collection?_eq hgvk (hremembers _ _ hknown)
  obtain rfl := Option.some.inj (hcollection.symm.trans hplace)
  have haddressed {request : Request}
      (hrequest : handler.Addressing (handler.endpoint mapping object.namespace?) object request) :
      request.method = .post ∧ handler.collection? known object = some request.path ∨
        request.method = .put ∧ handler.objectPath? known object = some request.path := by
    rcases hrequest.path hname hwhole with ⟨hmethod, heq⟩ | ⟨hmethod, heq⟩
    · exact .inl ⟨hmethod, heq ▸ hcollection⟩
    · exact .inr ⟨hmethod, heq ▸ hpath⟩
  obtain ⟨front, rfl, hfront⟩ := hsent.exists_front hpart
  constructor
  · refine ⟨_, List.mem_append_right _ List.mem_cons_self, ?_⟩
    rcases haddressed hlast with ⟨hmethod, -⟩ | ⟨hmethod, -⟩ <;> simp [hmethod]
  · intro request hmem
    rcases List.mem_append.1 hmem with hmem | hmem
    · exact (hfront request hmem).imp_right haddressed
    · obtain rfl := List.mem_singleton.1 hmem
      exact .inr (haddressed hlast)

theorem Deleted.removes (h : Deleted handler object before after)
    (hremembers : after.Remembers known) (hpart : after.requests = before.requests ++ part) :
    ∃ path, handler.objectPath? known object = some path ∧
      (Request.IsWhole path → handler.Removes known object part) := by
  obtain ⟨hgvk, hfinds, hname, hlast⟩ := h
  have hplace := handler.collection?_eq hgvk (hremembers _ _ hfinds.known)
  have hpath := objectPath?_eq_some_iff.2 ⟨_, _, hplace, hname, rfl⟩
  refine ⟨_, hpath, fun hwhole ↦ ?_⟩
  obtain ⟨built, hbuilt, hbuild⟩ := Option.bind_eq_some_iff.1 hlast
  obtain ⟨-, rfl⟩ := Endpoint.objectPath?_eq_some_iff.1 hbuilt
  obtain ⟨front, rfl, hfront⟩ := hfinds.reads.exists_front hpart
  rw [Request.build?_of_isWhole hwhole hbuild]
  exact .intro hfront rfl hpath

end DynamicHandler

end ClusterObjects
