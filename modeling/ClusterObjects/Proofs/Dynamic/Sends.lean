import ClusterObjects.Dynamic.Operations
import ClusterObjects.Proofs.Api.Mapping

/-!
# What a handler of any kind sends

An operation of a dynamic handler looks the kind up, with requests that read, and then has its verbs
sent to the collection that it has found. `DynamicHandler.Only P objects` says that all of these
requests have the property `P` as long as they are about the given objects, each at the collection
where it is known to belong; then so has every request of every operation on such objects.
-/

namespace ClusterObjects

theorem Object.name?_of_requiredName {object : Object} {name : String}
    (h : object.requiredName = .ok name) : object.name? = some name := by
  unfold requiredName at h
  rcases hfound : object.name? with _ | found
  · rw [hfound] at h
    cases h
  · rw [hfound, Option.bind_some] at h
    by_cases hempty : found.isEmpty = true
    · rw [if_pos hempty] at h
      cases h
    · rw [if_neg hempty] at h
      exact congrArg some (Except.ok.inj h)

namespace DynamicHandler

variable {α : Type} {P : Session → Request → Prop} {handler : DynamicHandler}
  {objects : List Object} {object : Object} {known : Session}

/-- The path of the collection that an object belongs to, where its kind is known. -/
def collection? (handler : DynamicHandler) (known : Session) (object : Object) : Option String :=
  match object.gvk with
  | .ok gvk => (known.learned? gvk).map fun mapping ↦
    (handler.endpoint mapping object.namespace?).path
  | .error _ => none

theorem collection?_eq (handler : DynamicHandler) {gvk : GroupVersionKind} {mapping : Mapping}
    (hgvk : object.gvk = .ok gvk) (hknown : known.learned? gvk = some mapping) :
    handler.collection? known object = some (handler.endpoint mapping object.namespace?).path := by
  unfold collection?
  rw [hgvk]
  dsimp only
  rw [hknown]
  rfl

/-- Requests that read have the property, and so have writes of the objects at the collections where
they belong, and deletions. -/
structure Only (P : Session → Request → Prop) (handler : DynamicHandler) (objects : List Object) :
    Prop where
  reads : ∀ known request, Request.Reads request → P known request
  creation : ∀ known, ∀ object ∈ objects, ∀ endpoint : Endpoint, ∀ request,
    handler.collection? known object = some endpoint.path →
    endpoint.createRequest? handler.options.post object.withoutServerFields = some request →
    P known request
  replacement : ∀ known, ∀ object ∈ objects, ∀ (endpoint : Endpoint) (name : String), ∀ request,
    handler.collection? known object = some endpoint.path → object.name? = some name →
    endpoint.replaceRequest? name handler.options.post object.withoutServerFields = some request →
    P known request
  deletion : ∀ known, ∀ (endpoint : Endpoint) (name kind : String), ∀ request,
    endpoint.deleteRequest? name (handler.deleteParams kind) = some request → P known request
  patch : ∀ known, ∀ object ∈ objects, ∀ (endpoint : Endpoint) (name : String) (patch : Patch),
    ∀ request, handler.collection? known object = some endpoint.path → object.name? = some name →
    endpoint.patchRequest? name handler.options.patch patch = some request → P known request

/-- What comes after a kind is looked up runs with the collection that was found. -/
theorem run_endpointOf_bind (handler : DynamicHandler) (gvk : GroupVersionKind)
    (namespace? : Option String) (next : Endpoint → Exchange α) (session : Session) :
    (handler.endpointOf gvk namespace? >>= next).run.run session =
      match (Session.mapping gvk).run.run session with
      | (.error error, after) => (.error error, after)
      | (.ok mapping, after) => (next (handler.endpoint mapping namespace?)).run.run after := by
  unfold endpointOf
  rw [Exchange.run_bind, Exchange.run_bind]
  rcases (Session.mapping gvk).run.run session with ⟨result, after⟩
  cases result <;> rfl

/-- What comes after a kind is looked up runs in a session that knows the kind. -/
theorem advances_endpointOf_bind
    (hreads : ∀ known request, Request.Reads request → P known request) {gvk : GroupVersionKind}
    {namespace? : Option String} {next : Endpoint → Exchange α}
    (hnext : ∀ (mapping : Mapping) (between : Session), between.learned? gvk = some mapping →
      between.Advances P ((next (handler.endpoint mapping namespace?)).run.run between).2) :
    (handler.endpointOf gvk namespace? >>= next).Leads (Session.Advances P) := by
  intro before
  have hremembers := Session.remembers_mapping gvk before
  have hsent := Session.sends_mapping gvk before
  rw [run_endpointOf_bind]
  rcases hmapping : (Session.mapping gvk).run.run before with ⟨result, between⟩
  rw [hmapping] at hremembers hsent
  have hlookup : before.Advances P between :=
    ⟨hremembers, fun known _ ↦ hsent.mono (hreads known)⟩
  cases result with
  | error error => exact hlookup
  | ok mapping =>
    exact hlookup.trans (hnext mapping between (Session.finds_of_run_mapping hmapping).known)

/-! ## Single objects -/

section Objects

variable (h : handler.Only P objects)
include h

theorem advances_createObject (hmem : object ∈ objects) :
    (handler.createObject object).Leads (Session.Advances P) := by
  apply Exchange.Leads.lift_bind
  intro gvk hgvk
  apply advances_endpointOf_bind h.reads
  intro mapping between hknown
  apply (Endpoint.asks_create _ _ _).advances
  intro known request hremembers hrequest
  have hplace := handler.collection?_eq hgvk (hremembers _ _ hknown)
  exact h.creation known object hmem _ request hplace hrequest

theorem advances_updateObject (hmem : object ∈ objects) :
    (handler.updateObject object).Leads (Session.Advances P) := by
  unfold updateObject
  cases hname : object.name? with
  | none => exact .throw _
  | some name =>
    apply Exchange.Leads.lift_bind
    intro gvk hgvk
    apply advances_endpointOf_bind h.reads
    intro mapping between hknown
    apply (Endpoint.asks_replace _ _ _ _).advances
    intro known request hremembers hrequest
    have hplace := handler.collection?_eq hgvk (hremembers _ _ hknown)
    exact h.replacement known object hmem _ name request hplace hname hrequest

theorem advances_applyObject (hmem : object ∈ objects) :
    (handler.applyObject object).Leads (Session.Advances P) := by
  refine .tryCatch (advances_createObject h hmem) fun error ↦ ?_
  split
  · exact advances_updateObject h hmem
  · exact .throw error

theorem advances_create {input : Input} (hmem : ∀ object, DynamicHandler.object input = .ok object →
    object ∈ objects) : (handler.create input).Leads (Session.Advances P) :=
  .lift_bind fun object hobject ↦ advances_createObject h (hmem object hobject)

theorem advances_update {input : Input} (hmem : ∀ object, DynamicHandler.object input = .ok object →
    object ∈ objects) : (handler.update input).Leads (Session.Advances P) :=
  .lift_bind fun object hobject ↦ advances_updateObject h (hmem object hobject)

theorem advances_apply {input : Input} (hmem : ∀ object, DynamicHandler.object input = .ok object →
    object ∈ objects) : (handler.apply input).Leads (Session.Advances P) :=
  .lift_bind fun object hobject ↦ advances_applyObject h (hmem object hobject)

theorem advances_locate (input : Input) :
    (handler.locate input).Leads (Session.Advances P) := by
  have hfound {β : Type} (gvk : GroupVersionKind) (namespace? : Option String)
      (value : Endpoint → β) :
      (do return value (← handler.endpointOf gvk namespace?) : Exchange β).Leads
        (Session.Advances P) :=
    advances_endpointOf_bind h.reads fun _ between _ ↦ .refl between
  unfold locate
  split
  · exact .bind (.lift _) fun gvk ↦ hfound gvk _ _
  · refine .bind (.lift _) fun object ↦ .bind (.lift _) fun name ↦ ?_
    exact .bind (.lift _) fun gvk ↦ hfound gvk _ _

theorem advances_delete (input : Input) : (handler.delete input).Leads (Session.Advances P) := by
  apply Exchange.Leads.bind (advances_locate h input)
  rintro ⟨gvk, endpoint, name⟩ before
  exact (endpoint.asks_delete name _).advances before fun known request _ ↦
    h.deletion known endpoint name gvk.kind request

theorem advances_patch {existing : Object} (hmem : existing ∈ objects) (input : Input)
    (type : Option PatchType) :
    (handler.patch existing input type).Leads (Session.Advances P) := by
  unfold patch locateObject
  simp only [bind_assoc, pure_bind]
  apply Exchange.Leads.lift_bind
  intro name hname
  apply Exchange.Leads.lift_bind
  intro gvk hgvk
  apply advances_endpointOf_bind h.reads
  intro mapping between hknown
  rw [Exchange.run_lift_bind]
  rcases patchOf existing input (type.getD .merge) with error | _ | patch
  · exact .refl between
  · exact .refl between
  · apply (Endpoint.asks_patch _ _ _ _).advances
    intro known request hremembers hrequest
    have hplace := handler.collection?_eq hgvk (hremembers _ _ hknown)
    exact h.patch known existing hmem _ name patch request hplace
      (Object.name?_of_requiredName hname) hrequest

/-! ## Manifests -/

theorem advances_applyAll {list : List Object} (hsub : ∀ object ∈ list, object ∈ objects) :
    (handler.applyAll list).Leads (Session.Advances P) := by
  induction list with
  | nil => exact .pure []
  | cons object rest ih =>
    obtain ⟨hmem, hrest⟩ := List.forall_mem_cons.1 hsub
    exact .bind (advances_applyObject h hmem) fun _ ↦ .bind (ih hrest) fun _ ↦ .pure _

theorem advances_deleteAll (list : List Object) :
    (handler.deleteAll list).Leads (Session.Advances P) := by
  induction list with
  | nil => exact .pure ()
  | cons object rest ih => exact .bind (advances_delete h (.object object)) fun _ ↦ ih

theorem advances_applyManifest {data : ByteArray}
    (hsub : ∀ found, Manifest.objects data = .ok found → ∀ object ∈ found, object ∈ objects) :
    (handler.applyManifest data).Leads (Session.Advances P) :=
  .lift_bind fun found hfound ↦ advances_applyAll h (hsub found hfound)

theorem advances_deleteManifest (data : ByteArray) :
    (handler.deleteManifest data).Leads (Session.Advances P) :=
  .bind (.lift _) fun found ↦ advances_deleteAll h found.reverse

end Objects

end DynamicHandler

end ClusterObjects
