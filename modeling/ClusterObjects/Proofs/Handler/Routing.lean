import ClusterObjects.Kubeconfig.Connection
import ClusterObjects.Proofs.Handler.Apply
import ClusterObjects.Proofs.Handler.Twins
import ClusterObjects.Proofs.Watch.Run

/-!
# Where the requests of a handler go

Every call of a handler of one kind is made in one namespace: that of the object that it is about,
or the one that it names, or else that of the handler. All its requests go to the collection of the
kind there, or to one object in it. The namespace of a handler is never empty and neither is that of
an object, where it counts. Only the one that a list names is taken as it is, and an empty one leads
out of the namespaces. A kind outside of namespaces has one collection only.
-/

namespace ClusterObjects

/-! ## Requests to a collection -/

namespace Endpoint

variable {endpoint : Endpoint} {name : String} {name? : Option String} {request : Request}

/-- A request that goes to a collection, or to the object in it with the given name. Its path ends
where the path that it is built for is no longer whole. -/
inductive Receives (endpoint : Endpoint) (name? : Option String) (request : Request) : Prop where
  | collection (hmethod : request.method = .get ∨ request.method = .post)
      (hpath : request.path = Request.cut endpoint.path) : Receives endpoint name? request
  | object {name : String} (hname : name? = some name) (hmethod : request.method ≠ .post)
      (hpath : request.path = Request.cut (endpoint.path ++ "/" ++ name)) :
      Receives endpoint name? request

namespace Receives

variable {method : Method} {path : String} {query? : Option (List (String × String))}
  {contentType : Option String} {body : Option Json}

theorem of_build? (hmethod : method = .get ∨ method = .post)
    (h : Request.build? method endpoint.path query? contentType body = some request) :
    endpoint.Receives name? request :=
  .collection ((Request.build?_eq h).1 ▸ hmethod) (Request.path_of_build? h)

theorem of_objectPath? (hpath : endpoint.objectPath? name = some path) (hmethod : method ≠ .post)
    (h : Request.build? method path query? contentType body = some request) :
    endpoint.Receives (some name) request := by
  obtain ⟨-, rfl⟩ := objectPath?_eq_some_iff.1 hpath
  exact .object rfl ((Request.build?_eq h).1 ▸ hmethod) (Request.path_of_build? h)

end Receives

theorem receives_create (endpoint : Endpoint) (params : PostParams) (object : Object) :
    (endpoint.create params object).Sends (endpoint.Receives name?) := by
  refine sends_create fun request hrequest ↦ ?_
  obtain ⟨-, hbuild⟩ := (Option.ite_none_right_eq_some ..).1 hrequest
  exact .of_build? (.inr rfl) hbuild

theorem receives_replace (endpoint : Endpoint) (name : String) (params : PostParams)
    (object : Object) :
    (endpoint.replace name params object).Sends (endpoint.Receives (some name)) := by
  refine sends_replace fun request hrequest ↦ ?_
  obtain ⟨path, hpath, hbuild⟩ := Option.bind_eq_some_iff.1 hrequest
  exact .of_objectPath? hpath (by decide) hbuild

theorem receives_delete (endpoint : Endpoint) (name : String) (params : DeleteParams) :
    (endpoint.delete name params).Sends (endpoint.Receives (some name)) := by
  refine sends_delete fun request hrequest ↦ ?_
  obtain ⟨path, hpath, hbuild⟩ := Option.bind_eq_some_iff.1 hrequest
  exact .of_objectPath? hpath (by decide) hbuild

theorem receives_patch (endpoint : Endpoint) (name : String) (params : PatchParams)
    (patch : Patch) :
    (endpoint.patch name params patch).Sends (endpoint.Receives (some name)) := by
  refine sends_patch fun request hrequest ↦ ?_
  obtain ⟨path, hpath, hfits⟩ := Option.bind_eq_some_iff.1 hrequest
  obtain ⟨-, hbuild⟩ := (Option.ite_none_right_eq_some ..).1 hfits
  exact .of_objectPath? hpath (by decide) hbuild

theorem receives_getRequest? (h : endpoint.getRequest? name = some request) :
    endpoint.Receives (some name) request := by
  obtain ⟨path, hpath, hbuild⟩ := Option.bind_eq_some_iff.1 h
  exact .of_objectPath? hpath (by decide) hbuild

theorem receives_get (endpoint : Endpoint) (name : String) :
    (endpoint.get name).Sends (endpoint.Receives (some name)) :=
  sends_get fun _ ↦ receives_getRequest?

theorem receives_list (endpoint : Endpoint) (params : ListParams) :
    (endpoint.list params).Sends (endpoint.Receives name?) :=
  sends_list fun _ ↦ .of_build? (.inl rfl)

end Endpoint

/-- A watch opens streams on the collection and asks for the one object or for the collection. -/
theorem Subscription.receives_watch (sub : Subscription) (session : Session) :
    session.Extends (sub.endpoint.Receives (match sub.existence with
      | .name name => some name
      | .selector _ => none)) (sub.watch.run session).2 := by
  refine sends_watch (fun request hrequest ↦ .of_build? (.inl rfl) hrequest) ?_ session
  intro request hrequest
  unfold question? Existence.question? at hrequest
  cases hexistence : sub.existence with
  | name name =>
    rw [hexistence] at hrequest
    exact Endpoint.receives_getRequest? hrequest
  | selector query =>
    rw [hexistence] at hrequest
    exact .of_build? (.inl rfl) hrequest

/-! ## The collections of a kind -/

namespace Kind

theorem path_ofKind_of_namespaced (kind : Kind) (h : kind.namespaced = true) (scope : String) :
    (Endpoint.ofKind kind (some scope)).path =
      kind.root ++ "namespaces/" ++ scope ++ "/" ++ kind.plural := by
  unfold Endpoint.ofKind collectionPath root
  rw [if_pos h]
  simp only [String.append_assoc]

theorem path_ofKind_of_not_namespaced (kind : Kind) (h : kind.namespaced = false)
    (scope : String) : (Endpoint.ofKind kind (some scope)).path = kind.root ++ kind.plural := by
  unfold Endpoint.ofKind collectionPath root
  simp only [h, Bool.false_eq_true, if_false, String.append_empty]

end Kind

/-! ## Handlers and their namespaces -/

theorem normalNamespace_ne (name : String) : normalNamespace name ≠ "" := by
  unfold normalNamespace
  split
  · decide
  · next h => exact fun heq ↦ h (String.isEmpty_iff.2 heq)

theorem normalNamespace_of_ne {name : String} (h : name ≠ "") : normalNamespace name = name :=
  if_neg fun hempty ↦ h (String.isEmpty_iff.1 hempty)

theorem Object.ne_of_ownNamespace? {object : Object} {own : String}
    (h : object.ownNamespace? = some own) : own ≠ "" := by
  obtain ⟨name, -, hname⟩ := Option.bind_eq_some_iff.1 h
  obtain ⟨hnonempty, rfl⟩ := nonEmpty?_eq_some_iff.1 hname
  exact hnonempty

theorem Object.ownName?_of_requiredName (object : Object) {name : String}
    (h : object.requiredName = .ok name) : object.ownName? = some name := by
  rw [requiredName_eq] at h
  cases hown : object.ownName? with
  | none =>
    rw [hown] at h
    cases h
  | some own =>
    rw [hown] at h
    exact congrArg some (Except.ok.inj h)

namespace Handler

variable {handler : Handler}

/-- The handlers that a program can come to have. Clones are the handlers themselves. -/
inductive Reached : Handler → Prop where
  | new (kind : Kind) (namespaceName : String) : Reached (.new kind namespaceName)
  | connected {kind : Kind} {config : Config} {files : FileTree} {environment : Environment}
      {handler : Handler} (h : connect kind config files environment = .ok handler) :
      Reached handler
  | inNamespace {handler : Handler} (h : Reached handler) (name : String) :
      Reached (handler.withNamespace name)
  | dryRun {handler : Handler} (h : Reached handler) : Reached handler.withDryRun
  | changed {handler : Handler} (h : Reached handler) (change : OptionChange) :
      Reached (handler.change change)

theorem Reached.namespaceName_ne (h : handler.Reached) : handler.namespaceName ≠ "" := by
  induction h with
  | new kind namespaceName => exact normalNamespace_ne namespaceName
  | @connected kind config _ _ handler h =>
    have hname : (ofConfig kind config).namespaceName = normalNamespace config.namespaceName := by
      unfold ofConfig
      cases config.fieldManager <;> cases config.dryRun <;> rfl
    rw [eq_ofConfig_of_connect h, hname]
    exact normalNamespace_ne _
  | inNamespace _ name => exact normalNamespace_ne name
  | dryRun _ ih => exact ih
  | changed _ change ih => exact ih

end Handler

/-! ## Calls -/

/-- The calls that work in one namespace. A list without further ado is one by label. -/
inductive HandlerCall where
  | create (input : Input)
  | update (input : Input)
  | apply (input : Input)
  | delete (target : Input)
  | get (target : Input)
  | patch (existing : Object) (input : Input) (type : PatchType)
  | listByLabel (selector : String)
  | listByField (selector : String)
  | listByNamespace (name : String)
  | watch (target : Input)
  | watchByName (name : String)
  | watchByLabel (selector : String)
  | watchByField (selector : String)

namespace HandlerCall

/-- The session after a call. -/
def after (handler : Handler) (session : Session) : HandlerCall → Session
  | create input => ((handler.create input).run.run session).2
  | update input => ((handler.update input).run.run session).2
  | apply input => ((handler.apply input).run.run session).2
  | delete target => ((handler.delete target).run.run session).2
  | get target => ((handler.get target).run.run session).2
  | patch existing input type => ((handler.patch existing input type).run.run session).2
  | listByLabel selector => ((handler.listByLabel selector).run.run session).2
  | listByField selector => ((handler.listByField selector).run.run session).2
  | listByNamespace name => ((handler.listByNamespace name).run.run session).2
  | watch target => ((handler.watch target).run session).2
  | watchByName name => ((handler.watchByName name).run session).2
  | watchByLabel selector => ((handler.watchByLabel selector).run session).2
  | watchByField selector => ((handler.watchByField selector).run session).2

/-- The object that a call is about, if it is given one. -/
def object? (handler : Handler) : HandlerCall → Option Object
  | create input | update input | apply input => (handler.object input).toOption
  | delete target | get target | watch target => (handler.object target).toOption
  | patch existing _ _ => some existing
  | listByLabel _ | listByField _ | listByNamespace _ | watchByName _ | watchByLabel _
  | watchByField _ => none

/-- The namespace that a call names. -/
def argument? : HandlerCall → Option String
  | listByNamespace name => some name
  | _ => none

/-- The namespace of a call. -/
def scope (handler : Handler) (call : HandlerCall) : String :=
  ((call.object? handler).bind Object.ownNamespace?).getD
    (call.argument?.getD handler.namespaceName)

/-- The name of the object that a call addresses. -/
def name? (handler : Handler) (call : HandlerCall) : Option String :=
  match call with
  | delete (.name name) | get (.name name) | watch (.name name) | watchByName name => some name
  | call => (call.object? handler).bind Object.ownName?

end HandlerCall

namespace Handler

variable {handler : Handler} {object : Object} {target : Input} {namespaceName name : String}

/-- The namespace that an object is in is not empty, if that of the handler is not. -/
theorem namespaceOf_ne (handler : Handler) (h : handler.namespaceName ≠ "") (object : Object) :
    handler.namespaceOf object ≠ "" := by
  unfold namespaceOf
  cases hown : object.ownNamespace? with
  | none => exact h
  | some own => exact Object.ne_of_ownNamespace? hown

theorem receives_createObject (handler : Handler) (object : Object) {name? : Option String} :
    (handler.createObject object).Sends ((handler.endpointOf object).Receives name?) :=
  (handler.endpointOf object).receives_create _ _

theorem receives_updateObject (handler : Handler) (object : Object) :
    (handler.updateObject object).Sends ((handler.endpointOf object).Receives object.ownName?) := by
  refine .lift_bind fun name hname ↦ ?_
  rw [object.ownName?_of_requiredName hname]
  exact (handler.endpointOf object).receives_replace name _ _

theorem receives_applyObject (handler : Handler) (object : Object) :
    (handler.applyObject object).Sends ((handler.endpointOf object).Receives object.ownName?) := by
  refine .tryCatch (handler.receives_createObject object) fun error ↦ ?_
  split
  · exact handler.receives_updateObject object
  · exact .throw error

/-- A target that is resolved is a name, or an object with a name of its own. -/
theorem resolve_eq_ok (h : handler.resolve target = .ok (namespaceName, name)) :
    (target = .name name ∧ namespaceName = handler.namespaceName) ∨
      ∃ object, handler.object target = .ok object ∧ object.ownName? = some name ∧
        namespaceName = handler.namespaceOf object := by
  rw [resolve_eq] at h
  cases target with
  | name given =>
    obtain ⟨rfl, rfl⟩ := Prod.mk.inj (Except.ok.inj h)
    exact .inl ⟨rfl, rfl⟩
  | file _ | bytes _ | object _ | map _ =>
    right
    dsimp only at h
    split at h
    · cases h
    · next object hread =>
      split at h
      · cases h
      · next own hown =>
        obtain ⟨rfl, rfl⟩ := Prod.mk.inj (Except.ok.inj h)
        exact ⟨object, hread, hown, rfl⟩

end Handler

namespace HandlerCall

variable {handler : Handler} {call : HandlerCall} {object : Object} {target : Input}
  {namespaceName name : String} {request : Request}

theorem scope_of_object? (hobject : call.object? handler = some object)
    (hargument : call.argument? = none) : call.scope handler = handler.namespaceOf object := by
  unfold scope
  rw [hobject, hargument]
  rfl

/-- A call on a target works where the target is resolved to. -/
theorem delete_of_resolve (h : handler.resolve target = .ok (namespaceName, name)) :
    (delete target).scope handler = namespaceName ∧ (delete target).name? handler = some name := by
  rcases Handler.resolve_eq_ok h with ⟨rfl, rfl⟩ | ⟨object, hobject, hname, rfl⟩
  · exact ⟨rfl, rfl⟩
  · have hread : (delete target).object? handler = some object := congrArg Except.toOption hobject
    refine ⟨scope_of_object? hread rfl, ?_⟩
    cases target with
    | name given => cases hobject
    | file _ | bytes _ | object _ | map _ =>
      exact (congrArg (Option.bind · Object.ownName?) hread).trans hname

theorem name?_get_eq (handler : Handler) (target : Input) :
    (get target).name? handler = (delete target).name? handler := by
  cases target <;> rfl

theorem name?_watch_eq (handler : Handler) (target : Input) :
    (watch target).name? handler = (delete target).name? handler := by
  cases target <;> rfl

/-- The requests of a call go to the collection in its namespace. -/
theorem receives_after (hnamespace : handler.namespaceName ≠ "") (call : HandlerCall)
    (session : Session) :
    session.Extends ((handler.endpointIn (call.scope handler)).Receives (call.name? handler))
      (call.after handler session) := by
  cases call with
  | create input =>
    refine Exchange.Leads.lift_bind (fun object hobject ↦ ?_) session
    have hread : (create input).object? handler = some object := congrArg Except.toOption hobject
    rw [scope_of_object? hread rfl]
    exact handler.receives_createObject object
  | update input =>
    refine Exchange.Leads.lift_bind (fun object hobject ↦ ?_) session
    have hread : (update input).object? handler = some object := congrArg Except.toOption hobject
    rw [scope_of_object? hread rfl, name?, hread]
    · exact handler.receives_updateObject object
    all_goals exact nofun
  | apply input =>
    refine Exchange.Leads.lift_bind (fun object hobject ↦ ?_) session
    have hread : (apply input).object? handler = some object := congrArg Except.toOption hobject
    rw [scope_of_object? hread rfl, name?, hread]
    · exact handler.receives_applyObject object
    all_goals exact nofun
  | delete target =>
    refine Exchange.Leads.lift_bind (fun place hplace ↦ ?_) session
    obtain ⟨hscope, hname⟩ := delete_of_resolve hplace
    rw [hscope, hname]
    exact Endpoint.receives_delete _ _ _
  | get target =>
    refine Exchange.Leads.lift_bind (fun place hplace ↦ ?_) session
    obtain ⟨hscope, hname⟩ := delete_of_resolve hplace
    rw [show (get target).scope handler = _ from hscope, name?_get_eq, hname]
    exact Endpoint.receives_get _ _
  | patch existing input type =>
    refine Exchange.Leads.lift_bind (fun name hname ↦ .lift_bind fun patch? _ ↦ ?_) session
    have hown : (patch existing input type).name? handler = some name :=
      existing.ownName?_of_requiredName hname
    rw [scope_of_object? rfl rfl, hown]
    cases patch? with
    | none => exact .pure existing
    | some patch => exact (handler.endpointOf existing).receives_patch name _ patch
  | listByLabel selector => exact Endpoint.receives_list _ _ session
  | listByField selector => exact Endpoint.receives_list _ _ session
  | listByNamespace name => exact Endpoint.receives_list _ _ session
  | watch target =>
    change session.Extends _ ((handler.watch target).run session).2
    unfold Handler.watch
    cases hplace : handler.resolve target with
    | error error => exact .refl session
    | ok place =>
      obtain ⟨namespaceName, name⟩ := place
      obtain ⟨hscope, hname⟩ := delete_of_resolve hplace
      have hown : namespaceName ≠ "" := by
        rcases Handler.resolve_eq_ok hplace with ⟨-, rfl⟩ | ⟨object, -, -, rfl⟩
        · exact hnamespace
        · exact handler.namespaceOf_ne hnamespace object
      have hendpoint : handler.endpointIn namespaceName =
          (handler.withNamespace namespaceName).endpoint := by
        unfold Handler.endpoint Handler.withNamespace
        rw [normalNamespace_of_ne hown]
        rfl
      rw [show (watch target).scope handler = _ from hscope, name?_watch_eq, hname, hendpoint]
      exact (Subscription.ofName (handler.withNamespace namespaceName).endpoint
        handler.options.watchParams name).receives_watch session
  | watchByName name =>
    exact (Subscription.ofName handler.endpoint handler.options.watchParams name).receives_watch
      session
  | watchByLabel selector =>
    exact (Subscription.ofLabel handler.endpoint handler.options.watchParams
      selector).receives_watch session
  | watchByField selector =>
    exact (Subscription.ofField handler.endpoint handler.options.watchParams
      selector).receives_watch session

/-- A request of a call: it goes to the collection in the namespace of the call or to the object
that the call addresses there. The parts of its path are spelled out for kinds in namespaces and for
the others. -/
structure Routed (handler : Handler) (call : HandlerCall) (request : Request) : Prop where
  receives : (handler.endpointIn (call.scope handler)).Receives (call.name? handler) request
  namespaced : handler.kind.namespaced = true → Request.IsWhole (call.scope handler) →
    request.Under (handler.kind.root ++ "namespaces/" ++ call.scope handler ++ "/")
  cluster : handler.kind.namespaced = false →
    request.path = handler.kind.root ++ handler.kind.plural ∨
      ∃ name, call.name? handler = some name ∧
        request.path = handler.kind.root ++ handler.kind.plural ++ Request.cut ("/" ++ name)

theorem Routed.of_receives
    (h : (handler.endpointIn (call.scope handler)).Receives (call.name? handler) request) :
    call.Routed handler request := by
  let kind := handler.kind
  have hslash : Request.IsWhole "/" := by decide
  refine ⟨h, fun hscoped hwhole ↦ ?_, fun hscoped ↦ ?_⟩
  · let front := kind.root ++ "namespaces/" ++ call.scope handler ++ "/"
    have hfront : Request.IsWhole front := by
      have hplace : Request.IsWhole "namespaces/" := by decide
      simp only [front, Request.isWhole_append]
      exact ⟨⟨⟨kind.isWhole_root, hplace⟩, hwhole⟩, hslash⟩
    have hpath : (handler.endpointIn (call.scope handler)).path = front ++ kind.plural :=
      kind.path_ofKind_of_namespaced hscoped _
    cases h with
    | collection _ heq =>
      rw [hpath, Request.cut_append_of_isWhole hfront] at heq
      exact ⟨_, heq⟩
    | object _ _ heq =>
      rw [hpath, String.append_assoc, String.append_assoc,
        Request.cut_append_of_isWhole hfront] at heq
      exact ⟨_, heq⟩
  · have hcollection : Request.IsWhole (kind.root ++ kind.plural) :=
      Request.isWhole_append.2 ⟨kind.isWhole_root, kind.isWhole_plural⟩
    have hpath : (handler.endpointIn (call.scope handler)).path = kind.root ++ kind.plural :=
      kind.path_ofKind_of_not_namespaced hscoped _
    cases h with
    | collection _ heq =>
      rw [hpath, Request.cut_of_isWhole hcollection] at heq
      exact .inl heq
    | @object name hname _ heq =>
      rw [hpath, String.append_assoc, Request.cut_append_of_isWhole hcollection] at heq
      exact .inr ⟨name, hname, heq⟩

/-- The namespace of a call is empty only where a list names an empty one. -/
theorem scope_eq_empty_iff (hnamespace : handler.namespaceName ≠ "") (call : HandlerCall) :
    call.scope handler = "" ↔ call = .listByNamespace "" := by
  unfold scope
  cases hown : (call.object? handler).bind Object.ownNamespace? with
  | some own =>
    obtain ⟨object, hobject, hnamed⟩ := Option.bind_eq_some_iff.1 hown
    refine iff_of_false (Object.ne_of_ownNamespace? hnamed) ?_
    rintro rfl
    cases hobject
  | none =>
    cases call with
    | listByNamespace name => simp [argument?]
    | create _ | update _ | apply _ | delete _ | get _ | patch _ _ _ | listByLabel _
    | listByField _ | watch _ | watchByName _ | watchByLabel _ | watchByField _ =>
      exact iff_of_false hnamespace nofun

/-- All requests of a call go to the collection in the namespace of its object, or in the one that
the call names, or in that of the handler, and for a kind outside of namespaces to its one
collection. The namespace is empty only where a list names an empty one. -/
theorem routes_to_namespace (h : handler.Reached) (call : HandlerCall) (session : Session) :
    session.Extends (call.Routed handler) (call.after handler session) ∧
      (call.scope handler = "" ↔ call = .listByNamespace "") :=
  ⟨(receives_after h.namespaceName_ne call session).mono fun _ ↦ .of_receives,
    scope_eq_empty_iff h.namespaceName_ne call⟩

/-- An object in a namespace of its own is applied by a handler that was given an empty one. -/
theorem routes_to_namespace_apply :
    let handler := (Handler.new .configMap "apps").withNamespace ""
    let object : Object := ⟨none, [("name", .str "settings"), ("namespace", .str "db")], []⟩
    let call := HandlerCall.apply (.object object)
    let session : Session :=
      { script := [.ofFailure 409 "AlreadyExists", .answer 200 .echo false] }
    let after := call.after handler session
    handler.Reached ∧ session.Extends (call.Routed handler) after ∧ call.scope handler = "db" ∧
      after.requests.map (·.path) = ["/api/v1/namespaces/db/configmaps",
        "/api/v1/namespaces/db/configmaps/settings"] := by
  intro handler object call session after
  have hreached : handler.Reached := .inNamespace (.new .configMap "apps") ""
  exact ⟨hreached, (routes_to_namespace hreached call session).1, by decide +kernel,
    by decide +kernel⟩

/-- A list in the namespace with an empty name leads out of the namespaces. -/
theorem exists_list_without_namespace :
    let handler := Handler.new .configMap "apps"
    ((HandlerCall.listByNamespace "").after handler { script := [] }).requests.map (·.path) =
      ["/api/v1/namespaces//configmaps"] := by
  decide +kernel

end HandlerCall

end ClusterObjects
