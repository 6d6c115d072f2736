import ClusterObjects.Proofs.Api.Mapping
import ClusterObjects.Proofs.Api.Twins
import ClusterObjects.Proofs.Handler.Fleet
import ClusterObjects.Proofs.Object.Typed

/-!
# Handlers of one kind and of any kind

An object of a known kind may be handed to a handler of that kind, or in its plain members to a
handler of any kind. Where both have the same namespace and options the server cannot tell them
apart: `Handler.Twin.handle` says so of every operation on an object, and `sends_alike` of whole
runs of operations and changes. Since known kinds are served where the sessions know them to be, a
handler of any kind never has to ask.
-/

namespace ClusterObjects

/-- The part of all paths of a kind that no name can end early. -/
def Kind.root (kind : Kind) : String :=
  (if kind.group.isEmpty then "/api/" else "/apis/") ++ kind.apiVersion ++ "/"

theorem Kind.isWhole_root (kind : Kind) : Request.IsWhole kind.root := by
  cases kind <;> decide +kernel

/-- Where a kind is served. -/
def Kind.mapping (kind : Kind) : Mapping := (Mapping.ofKind kind).2

/-- The session knows where a kind is served. -/
def Session.Knows (session : Session) (kind : Kind) : Prop :=
  session.learned? kind.gvk = some kind.mapping

/-- An operation on objects of a known kind. -/
inductive ObjectOrder where
  | create (object : Object)
  | update (object : Object)
  | apply (object : Object)
  | delete (object : Object)
  | get (object : Object)
  | patch (existing desired : Object) (type : PatchType)

/-- All objects of the operation are of the kind. -/
def ObjectOrder.IsOf (kind : Kind) : ObjectOrder → Prop
  | create object | update object | apply object | delete object | get object => object.IsOf kind
  | patch existing desired _ => existing.IsOf kind ∧ desired.IsOf kind

/-- Reads the plain members of an object. -/
def DynamicHandler.plain (object : Object) : Exchange Object :=
  Exchange.lift (DynamicHandler.object (.map object.toMembers))

/-- The session after an operation. A handler of any kind is given the plain members of the
object. -/
def AnyHandler.handle (session : Session) : AnyHandler → ObjectOrder → Session
  | typed handler, .create object => ((handler.create (.object object)).run.run session).2
  | typed handler, .update object => ((handler.update (.object object)).run.run session).2
  | typed handler, .apply object => ((handler.apply (.object object)).run.run session).2
  | typed handler, .delete object => ((handler.delete (.object object)).run.run session).2
  | typed handler, .get object => ((handler.get (.object object)).run.run session).2
  | typed handler, .patch existing desired type =>
    ((handler.patch existing (.object desired) type).run.run session).2
  | dynamic handler, .create object => ((handler.create (.map object.toMembers)).run.run session).2
  | dynamic handler, .update object => ((handler.update (.map object.toMembers)).run.run session).2
  | dynamic handler, .apply object => ((handler.apply (.map object.toMembers)).run.run session).2
  | dynamic handler, .delete object => ((handler.delete (.map object.toMembers)).run.run session).2
  | dynamic handler, .get object => ((handler.get (.map object.toMembers)).run.run session).2
  | dynamic handler, .patch existing desired type =>
    ((do handler.patch (← DynamicHandler.plain existing) (.map desired.toMembers) (some type) :
      Exchange Object).run.run session).2

namespace Exchange

variable {α β : Type} {session : Session}

theorem run_bind_congr {action other : Exchange α} (h : action.run.run session =
    other.run.run session) (next : α → Exchange β) :
    (action >>= next).run.run session = (other >>= next).run.run session := by
  rw [run_bind, run_bind, h]

theorem run_orAfterConflict_congr {first other : Exchange α} (h : first.run.run session =
    other.run.run session) (second : Exchange α) :
    (first.orAfterConflict second).run.run session =
      (other.orAfterConflict second).run.run session := by
  unfold orAfterConflict
  rw [run_tryCatch, run_tryCatch, h]

end Exchange

/-- A handler of any kind that has the namespace and the options of a handler of one kind. -/
structure Handler.Twin (handler : Handler) (twin : DynamicHandler) : Prop where
  namespace_eq : twin.namespaceName = handler.namespaceName
  options_eq : twin.options = handler.options

namespace Handler.Twin

variable {handler : Handler} {twin : DynamicHandler} {session : Session} {object : Object}

/-- The collection that the twin finds for an object of the handler's kind. -/
def place (handler : Handler) (twin : DynamicHandler) (object : Object) : Endpoint :=
  twin.endpoint handler.kind.mapping object.namespace?

theorem beside (h : Twin handler twin) (object : Object) :
    Endpoint.Beside handler.kind.root (handler.endpointOf object) (place handler twin object) := by
  constructor
  · unfold place DynamicHandler.endpoint Handler.endpointOf Handler.namespaceOf
    rw [h.namespace_eq]
    rfl
  · exact handler.kind.isWhole_root
  · exact ⟨_, String.append_assoc⟩

theorem run_endpointOf_bind {α : Type} (hknows : session.Knows handler.kind)
    (next : Endpoint → Exchange α) :
    (twin.endpointOf handler.kind.gvk object.namespace? >>= next).run.run session =
      (next (place handler twin object)).run.run session := by
  rw [twin.run_endpointOf_bind, Session.run_mapping_known hknows]
  rfl

/-- The kind is known, and so the twin locates an object by its name alone. -/
theorem run_locateObject (hobject : object.IsOf handler.kind) (hknows : session.Knows handler.kind) :
    (twin.locateObject object).run.run session =
      (Exchange.lift (object.requiredName.map fun name ↦
        (handler.kind.gvk, place handler twin object, name))).run.run session := by
  unfold DynamicHandler.locateObject
  rw [hobject.parts.gvk_eq, Exchange.run_lift_bind]
  cases object.requiredName with
  | error error => rfl
  | ok name => exact run_endpointOf_bind hknows _

theorem object_map (hobject : object.IsOf handler.kind) :
    DynamicHandler.object (.map object.toMembers) = .ok object := by
  unfold DynamicHandler.object
  rw [hobject.untyped_map]
  rfl

theorem run_object_bind {α : Type} (hobject : object.IsOf handler.kind)
    (next : Object → Exchange α) :
    (Exchange.lift (DynamicHandler.object (.map object.toMembers)) >>= next).run.run session =
      (next object).run.run session := by
  rw [object_map hobject]
  rfl

theorem locate_map (hobject : object.IsOf handler.kind) :
    twin.locate (.map object.toMembers) = twin.locateObject object := by
  change (Exchange.lift (DynamicHandler.object (.map object.toMembers)) >>= twin.locateObject) = _
  rw [object_map hobject]
  rfl

theorem run_resolve_bind {α : Type} (handler : Handler) (object : Object)
    (next : String × String → Exchange α) (session : Session) :
    (Exchange.lift (handler.resolve (.object object)) >>= next).run.run session =
      (Exchange.lift object.requiredName >>= fun name ↦
        next (handler.namespaceOf object, name)).run.run session := by
  change (Exchange.lift (object.requiredName >>= fun name ↦
    .ok (handler.namespaceOf object, name)) >>= next).run.run session = _
  cases object.requiredName <;> rfl

variable (h : Twin handler twin) (hobject : object.IsOf handler.kind)
  (hknows : session.Knows handler.kind)

include hobject hknows in
theorem run_createObject (twin : DynamicHandler) :
    (twin.createObject object).run.run session =
      ((place handler twin object).create twin.options.post object.withoutServerFields).run.run
        session := by
  unfold DynamicHandler.createObject
  rw [hobject.parts.gvk_eq, Exchange.run_lift_bind]
  exact run_endpointOf_bind hknows _

include h hobject hknows

theorem twins_createObject :
    (handler.createObject object).Twins (Request.Under handler.kind.root)
      (twin.createObject object) session := by
  refine .of_run_eq rfl (run_createObject hobject hknows twin) ?_
  rw [h.options_eq]
  exact (h.beside object).twins_create _ _

/-- A handler of one kind refuses an empty name, and its twin cannot build a request for it. -/
theorem twins_updateObject :
    (handler.updateObject object).Twins (Request.Under handler.kind.root)
      (twin.updateObject object) session := by
  unfold updateObject DynamicHandler.updateObject Object.requiredName
  cases hname : object.name? with
  | none => exact .of_throw _ _
  | some name =>
    have hsecond : (do
          let gvk ← Exchange.lift object.gvk
          let endpoint ← twin.endpointOf gvk object.namespace?
          endpoint.replace name twin.options.post object.withoutServerFields :
            Exchange Object).run.run session =
        ((place handler twin object).replace name handler.options.post
          object.withoutServerFields).run.run session := by
      rw [hobject.parts.gvk_eq, Exchange.run_lift_bind, ← h.options_eq]
      exact run_endpointOf_bind hknows _
    by_cases hempty : name.isEmpty = true
    · have hrequest : (place handler twin object).replaceRequest? name handler.options.post
          object.withoutServerFields = none := by
        unfold Endpoint.replaceRequest? Endpoint.objectPath?
        rw [if_pos hempty]
        rfl
      have hasks := (place handler twin object).asks_replace name handler.options.post
        object.withoutServerFields
      rw [hrequest] at hasks
      rw [Option.bind_some, if_pos hempty]
      exact .of_run_eq rfl (hsecond.trans (hasks.run_of_none session))
        (.of_throw .missingName (.api .badRequest))
    · rw [Option.bind_some, if_neg hempty]
      exact .of_run_eq rfl hsecond ((h.beside object).twins_replace _ _ _)

theorem twins_applyObject :
    (handler.applyObject object).Twins (Request.Under handler.kind.root)
      (twin.applyObject object) session := by
  have hcreate := run_createObject hobject hknows twin
  refine .of_run_eq rfl
    (Exchange.run_orAfterConflict_congr hcreate (twin.updateObject object)) ?_
  rw [h.options_eq]
  have hplace := h.beside object
  refine .orAfterConflict (Endpoint.asks_create _ _ _)
    (hplace.createRequest?_eq _ _ ▸ Endpoint.asks_create _ _ _) hplace.under_createRequest? ?_
  intro request
  exact h.twins_updateObject hobject hknows

omit h in
/-- Both locate an object that has a name, and both refuse one that has none. -/
theorem twins_locateObject {α β : Type} {first : String → Exchange α}
    {second : GroupVersionKind × Endpoint × String → Exchange β}
    (hnext : ∀ name, (first name).Twins (Request.Under handler.kind.root)
      (second (handler.kind.gvk, place handler twin object, name)) session) :
    (Exchange.lift object.requiredName >>= first).Twins (Request.Under handler.kind.root)
      (twin.locateObject object >>= second) session := by
  refine .of_run_eq rfl (Exchange.run_bind_congr (run_locateObject hobject hknows) second) ?_
  cases object.requiredName with
  | error error => exact .of_throw error error
  | ok name => exact hnext name

theorem twins_delete :
    (handler.delete (.object object)).Twins (Request.Under handler.kind.root)
      (twin.delete (.map object.toMembers)) session := by
  have hparams : twin.deleteParams handler.kind.gvk.kind = handler.deleteParams := by
    unfold DynamicHandler.deleteParams deleteParams
    rw [h.options_eq]
    cases handler.kind <;> rfl
  unfold Handler.delete DynamicHandler.delete
  rw [locate_map hobject]
  refine .of_run_eq (run_resolve_bind handler object _ session) rfl ?_
  refine twins_locateObject hobject hknows fun name ↦ ?_
  dsimp only
  rw [hparams]
  exact (h.beside object).twins_delete _ _

theorem twins_get :
    (handler.get (.object object)).Twins (Request.Under handler.kind.root)
      (twin.get (.map object.toMembers)) session := by
  unfold Handler.get DynamicHandler.get
  rw [locate_map hobject]
  refine .of_run_eq (run_resolve_bind handler object _ session) rfl ?_
  exact twins_locateObject hobject hknows fun name ↦ (h.beside object).twins_get _

/-- The objects state the same kind, so both handlers take the same difference between them. -/
theorem twins_patch {desired : Object} (hdesired : desired.IsOf handler.kind) (type : PatchType) :
    (handler.patch object (.object desired) type).Twins (Request.Under handler.kind.root)
      (twin.patch object (.map desired.toMembers) (some type)) session := by
  have hsame : DynamicHandler.sameKind object desired = .ok desired := by
    unfold DynamicHandler.sameKind
    rw [hobject.parts.types, hdesired.parts.types]
    exact if_pos rfl
  have hpatch : DynamicHandler.patchOf object (.map desired.toMembers) type =
      handler.patchOf object (.object desired) type := by
    unfold DynamicHandler.patchOf
    dsimp only
    rw [object_map hdesired]
    change (DynamicHandler.sameKind object desired >>= _) = _
    rw [hsame]
    rfl
  refine twins_locateObject hobject hknows fun name ↦ ?_
  dsimp only [Option.getD_some]
  rw [hpatch]
  apply Exchange.Twins.lift_bind
  intro patch? _
  cases patch? with
  | none => exact .of_pure object object
  | some patch =>
    rw [h.options_eq]
    exact (h.beside object).twins_patch _ _ _

end Handler.Twin

/-! ## Runs of operations -/

/-- What a handler may be told: to go on as a copy of itself, to change its options, or to perform
an operation. -/
inductive HandlerOrder where
  | copy (copy : HandlerCopy)
  | change (change : OptionChange)
  | perform (order : ObjectOrder)

namespace AnyHandler

/-- The session after orders have been carried out one after another, whether they fail or not. -/
def serve : AnyHandler → Session → List HandlerOrder → Session
  | _, session, [] => session
  | handler, session, .copy copy :: rest => (handler.copy copy).serve session rest
  | handler, session, .change change :: rest => (handler.change change).serve session rest
  | handler, session, .perform order :: rest => handler.serve (handler.handle session order) rest

/-- A handler of one kind and one of any kind that differ in nothing else. -/
inductive Twins (kind : Kind) : AnyHandler → AnyHandler → Prop where
  | intro {handler : Handler} {twin : DynamicHandler} (hkind : handler.kind = kind)
      (h : handler.Twin twin) : Twins kind (.typed handler) (.dynamic twin)

/-- The sessions after an operation of two handlers are one, in which the kind is still known and
nothing was sent but requests below its place. -/
structure LeavesAlike (kind : Kind) (before first second : Session) : Prop where
  session_eq : second = first
  knows : first.Knows kind
  sends : before.Extends (Request.Under kind.root) first

theorem LeavesAlike.of_twins {α β : Type} {kind : Kind} {first : Exchange α} {second : Exchange β}
    {session : Session} (hknows : session.Knows kind)
    (h : first.Twins (Request.Under kind.root) second session) :
    LeavesAlike kind session (first.run.run session).2 (second.run.run session).2 := by
  refine ⟨h.session_eq, ?_, h.sends⟩
  unfold Session.Knows Session.learned?
  rw [h.mappings_eq]
  exact hknows

namespace Twins

variable {kind : Kind} {first second : AnyHandler} {session : Session}

theorem copy (h : Twins kind first second) (copy : HandlerCopy) :
    Twins kind (first.copy copy) (second.copy copy) := by
  obtain ⟨hkind, hnamespace, hoptions⟩ := h
  cases copy with
  | clone => exact ⟨hkind, hnamespace, hoptions⟩
  | inNamespace name => exact ⟨hkind, rfl, hoptions⟩
  | ofKind gvk => exact ⟨hkind, hnamespace, hoptions⟩
  | dryRun => exact ⟨hkind, hnamespace, congrArg Options.dryRun hoptions⟩

theorem change (h : Twins kind first second) (change : OptionChange) :
    Twins kind (first.change change) (second.change change) := by
  obtain ⟨hkind, hnamespace, hoptions⟩ := h
  exact ⟨hkind, hnamespace, congrArg (Options.change · change) hoptions⟩

/-- Twins leave the same session behind an operation. What was known is still known, and nothing was
sent but requests below the place of the kind. -/
theorem handle (h : Twins kind first second) {order : ObjectOrder} (horder : order.IsOf kind)
    (hknows : session.Knows kind) :
    LeavesAlike kind session (first.handle session order) (second.handle session order) := by
  obtain ⟨rfl, htwin⟩ := h
  cases order with
  | create object =>
    refine .of_twins hknows (.of_run_eq rfl ?_ (htwin.twins_createObject horder hknows))
    exact Handler.Twin.run_object_bind horder _
  | update object =>
    refine .of_twins hknows (.of_run_eq rfl ?_ (htwin.twins_updateObject horder hknows))
    exact Handler.Twin.run_object_bind horder _
  | apply object =>
    refine .of_twins hknows (.of_run_eq rfl ?_ (htwin.twins_applyObject horder hknows))
    exact Handler.Twin.run_object_bind horder _
  | delete object => exact .of_twins hknows (htwin.twins_delete horder hknows)
  | get object => exact .of_twins hknows (htwin.twins_get horder hknows)
  | patch existing desired type =>
    obtain ⟨hexisting, hdesired⟩ := horder
    refine .of_twins hknows (.of_run_eq rfl ?_ (htwin.twins_patch hexisting hknows hdesired type))
    exact Handler.Twin.run_object_bind hexisting _

/-- Whole runs leave the same session behind, too. -/
theorem serve (h : Twins kind first second) {orders : List HandlerOrder}
    (horders : ∀ order, .perform order ∈ orders → order.IsOf kind)
    (hknows : session.Knows kind) :
    LeavesAlike kind session (first.serve session orders) (second.serve session orders) := by
  induction orders generalizing first second session with
  | nil => exact ⟨rfl, hknows, .refl session⟩
  | cons order rest ih =>
    have hrest : ∀ order, .perform order ∈ rest → order.IsOf kind :=
      fun order hmem ↦ horders order (List.mem_cons_of_mem _ hmem)
    cases order with
    | copy copy => exact ih (h.copy copy) hrest hknows
    | change change => exact ih (h.change change) hrest hknows
    | perform order =>
      obtain ⟨hsession, hknown, hsent⟩ := h.handle (horders order List.mem_cons_self) hknows
      obtain ⟨hsessions, hstill, hlater⟩ := ih h hrest hknown
      change LeavesAlike kind session (first.serve (first.handle session order) rest)
        (second.serve (second.handle session order) rest)
      rw [hsession]
      exact ⟨hsessions, hstill, hsent.trans hlater⟩

end Twins

end AnyHandler

/-- The place where the resources of a kind are listed is not below the place of any kind. -/
theorem Kind.not_under_root {kind other : Kind} {request : Request}
    (h : Discovery.request? other.gvk = some request) : ¬ request.Under kind.root := by
  have hpaths : ∀ kind ∈ all, ∀ other ∈ all, ∀ request ∈ Discovery.request? other.gvk,
      ¬ kind.root.toList <+: request.path.toList := by
    decide +kernel
  rintro ⟨rest, hpath⟩
  refine hpaths kind kind.mem_all other other.mem_all request h ⟨rest.toList, ?_⟩
  rw [hpath, String.toList_append]

theorem Session.knows_new (script : List Reply) (beyond : Reply) (kind : Kind) :
    (Session.new script beyond).Knows kind := by
  cases kind <;> rfl

/-- A handler of one kind and one of any kind that have been told the same send the same requests
for the same objects. The second one never asks where a known kind is served. -/
theorem AnyHandler.sends_alike (kind : Kind) (namespaceName : String) (script : List Reply)
    (beyond : Reply) {orders : List HandlerOrder}
    (h : ∀ order, .perform order ∈ orders → order.IsOf kind) :
    let start := Session.new script beyond
    let first := (typed (.new kind namespaceName)).serve start orders
    let second := (dynamic (.new namespaceName)).serve start orders
    second.requests = first.requests ∧
      ∀ request ∈ second.requests, ∀ other : Kind, Discovery.request? other.gvk ≠ some request := by
  intro start first second
  have hknows := Session.knows_new script beyond kind
  have htwins : Twins kind (typed (.new kind namespaceName)) (dynamic (.new namespaceName)) :=
    .intro rfl ⟨rfl, rfl⟩
  obtain ⟨hsession, -, requests, hsent, hunder⟩ := htwins.serve h hknows
  have hrequests : second.requests = first.requests := congrArg Session.requests hsession
  refine ⟨hrequests, fun request hrequest other hasked ↦ ?_⟩
  have hmem : request ∈ requests := by
    have hfirst : request ∈ first.sent := by
      rw [hrequests] at hrequest
      exact List.mem_reverse.1 hrequest
    rw [hsent] at hfirst
    simpa [start, Session.new] using hfirst
  exact Kind.not_under_root hasked (hunder request hmem)

/-- A job that is there already is applied and then deleted. Both handlers delete it in the
background, although they were told to do so in the foreground. -/
theorem AnyHandler.sends_alike_replaced_job :
    let object : Object := ⟨some Kind.job.typeMeta,
      [("name", .str "backup"), ("namespace", .str "db"), ("uid", .str "1")], []⟩
    let orders : List HandlerOrder := [.copy .dryRun, .change (.propagation "Foreground"),
      .perform (.apply object), .perform (.delete object)]
    let start := Session.new [.ofFailure 409 "AlreadyExists", .answer 200 .echo false] .noMore
    let first := (typed (.new .job "apps")).serve start orders
    let second := (dynamic (.new "apps")).serve start orders
    (∀ order, .perform order ∈ orders → order.IsOf .job) ∧ second.requests = first.requests ∧
      second.requests.map (fun request ↦ (request.method, request.path)) =
        [(.post, "/apis/batch/v1/namespaces/db/jobs"),
          (.put, "/apis/batch/v1/namespaces/db/jobs/backup"),
          (.delete, "/apis/batch/v1/namespaces/db/jobs/backup")] ∧
      second.requests.getLast?.bind (·.body) = some (Json.object
        [("dryRun", Json.strings ["All"]), ("propagationPolicy", .str "Background")]) := by
  intro object orders start first second
  have hobject : object.IsOf .job := ⟨.obj object.toMembers, by decide +kernel⟩
  have horders : ∀ order, .perform order ∈ orders → order.IsOf .job := by
    intro order hmem
    simp only [orders, List.mem_cons, HandlerOrder.perform.injEq, reduceCtorEq, false_or,
      List.not_mem_nil, or_false] at hmem
    rcases hmem with rfl | rfl
    · exact hobject
    · exact hobject
  obtain ⟨hrequests, -⟩ := sends_alike .job "apps" [.ofFailure 409 "AlreadyExists",
    .answer 200 .echo false] .noMore horders
  exact ⟨horders, hrequests, by decide +kernel, by decide +kernel⟩

end ClusterObjects
