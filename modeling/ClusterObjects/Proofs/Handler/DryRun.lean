import ClusterObjects.Handler.Operations
import ClusterObjects.Proofs.Dynamic.Sends

/-!
# Operations that rehearse

Under options that are dry for every verb, each operation of a handler sends rehearsals and requests
that read, whatever the inputs are and whatever the server answers. What a rehearsal is meant for is
told from the objects that the operation is about and from the collections where these belong. This
holds of both kinds of handlers, of both halves of an application, and of every object of a
manifest.
-/

namespace ClusterObjects

/-- Options under which every verb that writes is a dry run. -/
structure Options.DryRun (options : Options) : Prop where
  post : options.post.dryRun = true
  delete : options.delete.dryRun = true
  patch : options.patch.dryRun = true

namespace Options.DryRun

theorem of_dryRun (options : Options) : options.dryRun.DryRun := ⟨rfl, rfl, rfl⟩

/-- No other change of options takes the dry run back. -/
theorem change {options : Options} (h : options.DryRun) (change : OptionChange) :
    (options.change change).DryRun := by
  cases change with
  | timeout seconds => exact ⟨h.post, h.delete, h.patch⟩
  | limit count => exact ⟨h.post, h.delete, h.patch⟩
  | forceDelete force => exact ⟨h.post, h.delete, h.patch⟩
  | propagation policy => exact ⟨h.post, h.delete, h.patch⟩
  | fieldManager manager => exact ⟨h.post, h.delete, h.patch⟩

end Options.DryRun

/-- The path that a request is meant to have which writes an object: the collection's own when the
object is created there, and the object's own when it is replaced or patched. -/
inductive Object.PathFor (object : Object) (collection : String) (request : Request) :
    String → Prop where
  | created (hmethod : request.method = .post)
      (hbody : request.body = some object.withoutServerFields.toJson) :
      PathFor object collection request collection
  | replaced {name : String} (hmethod : request.method = .put)
      (hbody : request.body = some object.withoutServerFields.toJson)
      (hname : object.name? = some name) :
      PathFor object collection request (collection ++ "/" ++ name)
  | patched {name : String} (hmethod : request.method = .patch)
      (hname : object.name? = some name) :
      PathFor object collection request (collection ++ "/" ++ name)

/-- The paths that are meant by writes of objects which belong to known collections. -/
def PathAmong (collection? : Object → Option String) (objects : List Object) (request : Request)
    (path : String) : Prop :=
  ∃ object ∈ objects, ∃ collection, collection? object = some collection ∧
    object.PathFor collection request path

theorem mem_toList_of_eq_ok {ε α : Type} {result : Except ε α} {value : α}
    (h : result = .ok value) : value ∈ result.toOption.toList := by
  rw [h]
  exact List.mem_singleton_self value

namespace Handler

variable {handler : Handler} {objects : List Object} {object : Object}

/-- The path of the collection that an object belongs to. -/
def collection? (handler : Handler) (object : Object) : Option String :=
  some (handler.endpointOf object).path

/-- The rehearsals of writes of some objects. -/
def Rehearsal (handler : Handler) (objects : List Object) (_known : Session) (request : Request) :
    Prop := request.Rehearses (PathAmong handler.collection? objects)

theorem pathAmong_of_mem (hmem : object ∈ objects) {request : Request} {path : String}
    (h : object.PathFor (handler.endpointOf object).path request path) :
    PathAmong handler.collection? objects request path := ⟨object, hmem, _, rfl, h⟩

theorem rehearses_createObject (h : handler.options.DryRun) (hmem : object ∈ objects) :
    (handler.createObject object).Leads (Session.Advances (handler.Rehearsal objects)) := by
  intro before
  apply (Endpoint.asks_create _ _ _).advances
  intro known request _ hrequest
  exact Endpoint.rehearses_of_createRequest? h.post hrequest fun hmethod hbody ↦
    pathAmong_of_mem hmem (.created hmethod hbody)

theorem rehearses_updateObject (h : handler.options.DryRun) (hmem : object ∈ objects) :
    (handler.updateObject object).Leads (Session.Advances (handler.Rehearsal objects)) := by
  apply Exchange.Leads.lift_bind
  intro name hname before
  apply (Endpoint.asks_replace _ _ _ _).advances
  intro known request _ hrequest
  exact Endpoint.rehearses_of_replaceRequest? h.post hrequest fun hmethod hbody ↦
    pathAmong_of_mem hmem (.replaced hmethod hbody (Object.name?_of_requiredName hname))

theorem rehearses_applyObject (h : handler.options.DryRun) (hmem : object ∈ objects) :
    (handler.applyObject object).Leads (Session.Advances (handler.Rehearsal objects)) := by
  refine .tryCatch (rehearses_createObject h hmem) fun error ↦ ?_
  split
  · exact rehearses_updateObject h hmem
  · exact .throw error

/-- The kinds that have a policy of their own are deleted dry all the same. -/
theorem dryRun_deleteParams (h : handler.options.DryRun) : handler.deleteParams.dryRun = true := by
  unfold deleteParams
  split
  · exact h.delete
  · exact h.delete

theorem rehearses_get (handler : Handler) (objects : List Object) (target : Input) :
    (handler.get target).Leads (Session.Advances (handler.Rehearsal objects)) := by
  apply Exchange.Leads.lift_bind
  rintro ⟨namespaceName, name⟩ - before
  apply (Endpoint.asks_get _ _).advances
  intro known request _ hrequest
  exact .of_reads (Endpoint.reads_of_getRequest? hrequest)

theorem rehearses_delete (h : handler.options.DryRun) (target : Input) :
    (handler.delete target).Leads (Session.Advances (handler.Rehearsal objects)) := by
  apply Exchange.Leads.lift_bind
  rintro ⟨namespaceName, name⟩ - before
  apply (Endpoint.asks_delete _ _ _).advances
  intro known request _ hrequest
  exact Endpoint.rehearses_of_deleteRequest? (dryRun_deleteParams h) hrequest

theorem rehearses_patch (h : handler.options.DryRun) {existing : Object}
    (hmem : existing ∈ objects) (input : Input) (type : PatchType) :
    (handler.patch existing input type).Leads (Session.Advances (handler.Rehearsal objects)) := by
  apply Exchange.Leads.lift_bind
  intro name hname
  apply Exchange.Leads.lift_bind
  intro patch? _
  cases patch? with
  | none => exact .pure existing
  | some patch =>
    intro before
    apply (Endpoint.asks_patch _ _ _ _).advances
    intro known request _ hrequest
    exact Endpoint.rehearses_of_patchRequest? h.patch hrequest fun hmethod ↦
      pathAmong_of_mem hmem (.patched hmethod (Object.name?_of_requiredName hname))

end Handler

namespace DynamicHandler

variable {handler : DynamicHandler}

/-- The rehearsals of writes of some objects, as far as it is known where their kinds are served. -/
def Rehearsal (handler : DynamicHandler) (objects : List Object) (known : Session)
    (request : Request) : Prop := request.Rehearses (PathAmong (handler.collection? known) objects)

/-- The kinds that are never deleted in the foreground are deleted dry all the same. -/
theorem dryRun_deleteParams (h : handler.options.DryRun) (kind : String) :
    (handler.deleteParams kind).dryRun = true := by
  unfold deleteParams
  split
  · exact h.delete
  · exact h.delete

theorem rehearses (h : handler.options.DryRun) (objects : List Object) :
    handler.Only (handler.Rehearsal objects) objects where
  reads _ _ := .of_reads
  creation _ object hmem _ _ hplace hrequest :=
    Endpoint.rehearses_of_createRequest? h.post hrequest fun hmethod hbody ↦
      ⟨object, hmem, _, hplace, .created hmethod hbody⟩
  replacement _ object hmem _ _ _ hplace hname hrequest :=
    Endpoint.rehearses_of_replaceRequest? h.post hrequest fun hmethod hbody ↦
      ⟨object, hmem, _, hplace, .replaced hmethod hbody hname⟩
  deletion _ _ _ kind _ hrequest :=
    Endpoint.rehearses_of_deleteRequest? (dryRun_deleteParams h kind) hrequest
  patch _ object hmem _ _ _ _ hplace hname hrequest :=
    Endpoint.rehearses_of_patchRequest? h.patch hrequest fun hmethod ↦
      ⟨object, hmem, _, hplace, .patched hmethod hname⟩

end DynamicHandler

end ClusterObjects
