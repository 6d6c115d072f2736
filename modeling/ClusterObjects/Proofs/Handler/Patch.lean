import ClusterObjects.Proofs.Api.Plain
import ClusterObjects.Proofs.Handler.Apply
import ClusterObjects.Proofs.Patch.Document
import ClusterObjects.Proofs.Patch.Strategic

/-!
# Patching an object

A patch is made from a document, which is sent as it is, or from an object that is wanted, of which
only the difference is sent. Whatever comes of that, the patch goes to the object that it was asked
for, in one request, and only if there is something to change. A name or a namespace that ends the
path early leads it to another object all the same.
-/

namespace ClusterObjects

open Json (Members)

/-- What a patch is made from. -/
inductive PatchSource where
  | document (value : Json)
  | desired (object : Object)

namespace PatchSource

/-- What an input hands over to make a patch from. Members stand for the object that they are
decoded to. -/
def ofInput (kind : Kind) : Input → Except Error PatchSource
  | .name _ => .error (.invalidInput .nameForPatch)
  | .file file => do return document (← documentValue (← file.read))
  | .bytes data => do return document (← documentValue data)
  | .object given => .ok (desired given)
  | .map members => do return desired (← Object.decode kind (.obj members))

/-- The documents that say nothing. -/
def emptyDocuments : List Json := [.null, .obj [], .arr []]

/-- What comes of making a patch for an existing object: an error, nothing to send, or a patch. -/
inductive Makes (existing : Object) : PatchSource → PatchType → Except Error (Option Patch) → Prop
    where
  | emptyDocument {value : Json} {type : PatchType} (h : value ∈ emptyDocuments) :
      Makes existing (document value) type (.ok none)
  | strategicDocument {value : Json} (h : value ∉ emptyDocuments) :
      Makes existing (document value) .strategic (.ok (some (.strategic value)))
  | mergeDocument {value : Json} (h : value ∉ emptyDocuments) :
      Makes existing (document value) .merge (.ok (some (.merge value)))
  | operations {items : List Json} {operations : List Operation} (h : items ≠ [])
      (hread : List.Forall₂ (flip Operation.ReadFrom) items operations) :
      Makes existing (document (.arr items)) .json (.ok (some (.json operations)))
  | noOperation {items : List Json} {item : Json} (hitem : item ∈ items)
      (h : ∀ operation, ¬ Operation.ReadFrom operation item) :
      Makes existing (document (.arr items)) .json (.error .json)
  | noList {value : Json} (h : value ∉ emptyDocuments) (hlist : ∀ items, value ≠ .arr items) :
      Makes existing (document value) .json (.error (.invalidPatch .notAList))
  | sameForOperations {object : Object}
      (h : Operation.diff existing.toJson object.toJson = []) :
      Makes existing (desired object) .json (.ok none)
  | differentOperations {object : Object}
      (h : Operation.diff existing.toJson object.toJson ≠ []) :
      Makes existing (desired object) .json
        (.ok (some (.json (Operation.diff existing.toJson object.toJson))))
  | sameForMembers {object : Object} {type : PatchType} (htype : type ≠ .json)
      (h : MergePatch.diff existing.toJson object.toJson = .obj []) :
      Makes existing (desired object) type (.ok none)
  | mergeMembers {object : Object} {type : PatchType}
      (h : MergePatch.diff existing.toJson object.toJson ≠ .obj [])
      (htype : type = .merge ∨
        type = .strategic ∧ (MergePatch.diff existing.toJson object.toJson).HoldsArray) :
      Makes existing (desired object) type
        (.ok (some (.merge (MergePatch.diff existing.toJson object.toJson))))
  | strategicMembers {object : Object}
      (h : MergePatch.diff existing.toJson object.toJson ≠ .obj [])
      (harray : ¬ (MergePatch.diff existing.toJson object.toJson).HoldsArray) :
      Makes existing (desired object) .strategic
        (.ok (some (.strategic (MergePatch.diff existing.toJson object.toJson))))

variable (existing : Object)

theorem isEmptyDocument_iff {value : Json} :
    Patch.isEmptyDocument value = true ↔ value ∈ emptyDocuments := by
  unfold emptyDocuments
  rcases value with _ | _ | _ | _ | (_ | _) | (_ | _) <;> simp [Patch.isEmptyDocument]

theorem makes_raw (value : Json) (type : PatchType) :
    (document value).Makes existing type (Patch.raw value type) := by
  unfold Patch.raw
  by_cases hempty : Patch.isEmptyDocument value = true
  · rw [if_pos hempty]
    exact .emptyDocument (isEmptyDocument_iff.1 hempty)
  have hvalue : value ∉ emptyDocuments := mt isEmptyDocument_iff.2 hempty
  rw [if_neg hempty]
  cases type with
  | strategic => exact .strategicDocument hvalue
  | merge => exact .mergeDocument hvalue
  | json =>
    cases value with
    | arr items =>
      dsimp only
      cases hread : items.mapM Operation.ofJson? with
      | some operations =>
        have hitems : items ≠ [] := by
          rintro rfl
          exact hempty rfl
        exact .operations hitems (Operation.mapM_ofJson?_eq_some_iff.1 hread)
      | none =>
        obtain ⟨item, hitem, hnone⟩ := Operation.mapM_ofJson?_eq_none_iff.1 hread
        exact .noOperation hitem hnone
    | null | bool _ | num _ | str _ | obj _ => exact .noList hvalue nofun

/-- A difference between objects is an object, so only one way of being empty is left to it. -/
theorem difference_mem_emptyDocuments_iff (object : Object) :
    MergePatch.diff existing.toJson object.toJson ∈ emptyDocuments ↔
      MergePatch.diff existing.toJson object.toJson = .obj [] := by
  have hobject : ∃ changes, MergePatch.diff existing.toJson object.toJson = .obj changes := ⟨_, rfl⟩
  obtain ⟨changes, hchanges⟩ := hobject
  simp [hchanges, emptyDocuments]

theorem makes_between (object : Object) (type : PatchType) :
    (desired object).Makes existing type (Patch.between existing.toJson object.toJson type) := by
  have hempty := difference_mem_emptyDocuments_iff existing object
  have hraw := makes_raw existing (MergePatch.diff existing.toJson object.toJson)
  unfold Patch.between
  cases type with
  | json =>
    dsimp only
    split
    · next hnil => exact .sameForOperations hnil
    · next hne => exact .differentOperations hne
  | merge =>
    dsimp only
    generalize hmade : Patch.raw _ _ = made
    cases hmade ▸ hraw .merge with
    | emptyDocument h => exact .sameForMembers nofun (hempty.1 h)
    | mergeDocument h => exact .mergeMembers (mt hempty.2 h) (.inl rfl)
  | strategic =>
    dsimp only
    split_ifs with harray
    · generalize hmade : Patch.raw _ _ = made
      cases hmade ▸ hraw .merge with
      | emptyDocument h => exact .sameForMembers nofun (hempty.1 h)
      | mergeDocument h =>
        exact .mergeMembers (mt hempty.2 h) (.inr ⟨rfl, (Patch.containsArray_iff _).1 harray⟩)
    · generalize hmade : Patch.raw _ _ = made
      cases hmade ▸ hraw .strategic with
      | emptyDocument h => exact .sameForMembers nofun (hempty.1 h)
      | strategicDocument h =>
        exact .strategicMembers (mt hempty.2 h) (mt (Patch.containsArray_iff _).2 harray)

end PatchSource

namespace Handler

variable {handler : Handler} {existing : Object} {name : String} {patch : Patch}

/-- A patch is made from what the input hands over, as far as it hands over anything. -/
theorem makes_patchOf (handler : Handler) (existing : Object) (input : Input) (type : PatchType) :
    match PatchSource.ofInput handler.kind input with
    | .error error => handler.patchOf existing input type = .error error
    | .ok source => source.Makes existing type (handler.patchOf existing input type) := by
  have hdocument (value : Except Error Json) :
      match (do return PatchSource.document (← value) : Except Error PatchSource) with
      | .error error => (do Patch.raw (← value) type) = .error error
      | .ok source => source.Makes existing type (do Patch.raw (← value) type) := by
    cases value with
    | error error => rfl
    | ok value => exact PatchSource.makes_raw existing value type
  cases input with
  | name _ => rfl
  | file file =>
    unfold PatchSource.ofInput patchOf
    dsimp only
    cases file.read with
    | error error => rfl
    | ok data => exact hdocument (documentValue data)
  | bytes data => exact hdocument (documentValue data)
  | object given => exact PatchSource.makes_between existing given type
  | map members =>
    unfold PatchSource.ofInput patchOf object Input.typed
    dsimp only
    cases Object.decode handler.kind (.obj members) with
    | error error => rfl
    | ok read => exact PatchSource.makes_between existing read type

theorem run_patch (handler : Handler) (existing : Object) (input : Input) (type : PatchType)
    (session : Session) :
    (handler.patch existing input type).run.run session =
      match existing.ownName?, handler.patchOf existing input type with
      | none, _ => (.error .missingName, session)
      | some _, .error error => (.error error, session)
      | some _, .ok none => (.ok existing, session)
      | some name, .ok (some patch) =>
        ((handler.endpointOf existing).patch name handler.options.patch patch).run.run session := by
  unfold Handler.patch
  rw [Exchange.run_lift_bind, existing.requiredName_eq]
  cases existing.ownName? with
  | none => rfl
  | some name =>
    dsimp only
    rw [Exchange.run_lift_bind]
    cases handler.patchOf existing input type with
    | error error => rfl
    | ok patch? => cases patch? <;> rfl

/-- Where an existing object is, in its own namespace or else in the handler's. -/
def addressOf (handler : Handler) (existing : Object) (name : String) : String :=
  (handler.destinationOf existing (some name)).path

/-- What is asked for beside a patch. -/
def patchQuery (handler : Handler) : List (String × String) :=
  Endpoint.pairs [Endpoint.dryRunPair handler.options.patch.dryRun,
    ("fieldManager", handler.options.patch.fieldManager)]

/-- A request that carries a patch to an existing object. A name that ends the path early makes the
request another one than it is meant to be. -/
structure Carries (handler : Handler) (existing : Object) (name : String) (patch : Patch)
    (request : Request) : Prop where
  method : request.method = .patch
  contentType : request.contentType = some (Endpoint.patchContentType patch.type)
  body : request.body = some patch.body
  path : request.path = Request.cut (handler.addressOf existing name)
  whole : (handler.kind.namespaced = true → Request.IsWhole (handler.namespaceOf existing)) →
    Request.IsWhole name →
      request.path = handler.addressOf existing name ∧ request.query = handler.patchQuery

/-- How it ends to send a patch: with what the reply to a single request means, or with no request
at all where none can be built. -/
inductive Delivers (handler : Handler) (existing : Object) (name : String) (patch : Patch)
    (before : Session) : Except Error Object × Session → Prop where
  | unbuilt (h : Endpoint.managerFits handler.options.patch.fieldManager = true →
        Request.IsPlain (handler.addressOf existing name) →
          Request.addressFits (handler.addressOf existing name) (some handler.patchQuery) = false) :
      handler.Delivers existing name patch before (.error (.api .badRequest), before)
  | sent {request : Request}
      (hmanager : Endpoint.managerFits handler.options.patch.fieldManager = true)
      (hrequest : handler.Carries existing name patch request) :
      handler.Delivers existing name patch before
        (handler.answer existing request before.next, before.asked request)

theorem patchRequest?_endpointOf (hname : existing.ownName? = some name) :
    (handler.endpointOf existing).patchRequest? name handler.options.patch patch =
      if Endpoint.managerFits handler.options.patch.fieldManager then
        Request.build? .patch (handler.addressOf existing name) (some handler.patchQuery)
          (some (Endpoint.patchContentType patch.type)) (some patch.body)
      else none := by
  obtain ⟨stated, -, hstated⟩ := Option.bind_eq_some_iff.1 hname
  obtain ⟨hnonempty, rfl⟩ := nonEmpty?_eq_some_iff.1 hstated
  have hpath : (handler.endpointOf existing).objectPath? stated =
      some (handler.addressOf existing stated) := by
    rw [Endpoint.objectPath?_eq_some_iff, String.append_assoc]
    exact ⟨hnonempty, rfl⟩
  unfold Endpoint.patchRequest?
  rw [hpath]
  rfl

theorem carries_of_build? {request : Request}
    (h : Request.build? .patch (handler.addressOf existing name) (some handler.patchQuery)
      (some (Endpoint.patchContentType patch.type)) (some patch.body) = some request) :
    handler.Carries existing name patch request := by
  obtain ⟨hmethod, htype, hbody⟩ := Request.build?_eq h
  refine ⟨hmethod, htype, hbody, Request.path_of_build? h, fun hscope hname ↦ ?_⟩
  have hwhole : Request.IsWhole (handler.addressOf existing name) :=
    isWhole_destinationOf hscope fun other hother ↦ Option.some.inj hother ▸ hname
  rw [Request.build?_of_isWhole hwhole h]
  exact ⟨rfl, rfl⟩

theorem delivers_patch (hname : existing.ownName? = some name) (session : Session) :
    handler.Delivers existing name patch session
      (((handler.endpointOf existing).patch name handler.options.patch patch).run.run session) := by
  have hasks := (handler.endpointOf existing).asks_patch name handler.options.patch patch
  rw [patchRequest?_endpointOf hname] at hasks
  split_ifs at hasks with hmanager
  · cases hbuild : Request.build? .patch (handler.addressOf existing name)
      (some handler.patchQuery) (some (Endpoint.patchContentType patch.type)) (some patch.body) with
    | none =>
      rw [hbuild] at hasks
      rw [hasks.run_of_none]
      refine .unbuilt fun _ hplain ↦ ?_
      rw [Request.build?_of_isPlain hplain] at hbuild
      simpa using hbuild
    | some request =>
      rw [hbuild] at hasks
      rw [hasks.run_of_some]
      exact .sent hmanager (carries_of_build? hbuild)
  · rw [hasks.run_of_none]
    exact .unbuilt fun hfits ↦ absurd hfits hmanager

/-- An object is patched with at most one request, which goes to the object itself and carries what
the input makes of it. Nothing is sent for an object without a name, of an input that does not hold
what it should, or when there is nothing to change; the object is then given back as it is. -/
theorem patch_sends_changes (handler : Handler) (existing : Object) (input : Input)
    (type : PatchType) (session : Session) :
    let outcome := (handler.patch existing input type).run.run session
    match existing.ownName?, PatchSource.ofInput handler.kind input with
    | none, _ => outcome = (.error .missingName, session)
    | some _, .error error => outcome = (.error error, session)
    | some name, .ok source => ∃ made, source.Makes existing type made ∧
      match made with
      | .error error => outcome = (.error error, session)
      | .ok none => outcome = (.ok existing, session)
      | .ok (some patch) => handler.Delivers existing name patch session outcome := by
  intro outcome
  have hrun : outcome = _ := run_patch handler existing input type session
  have hmakes := makes_patchOf handler existing input type
  rw [hrun]
  cases hname : existing.ownName? with
  | none => rfl
  | some name =>
    cases hsource : PatchSource.ofInput handler.kind input with
    | error error =>
      rw [hsource] at hmakes
      dsimp only at hmakes ⊢
      rw [hmakes]
    | ok source =>
      rw [hsource] at hmakes
      refine ⟨_, hmakes, ?_⟩
      cases handler.patchOf existing input type with
      | error error => rfl
      | ok patch? =>
        cases patch? with
        | none => rfl
        | some patch => exact delivers_patch hname session

/-- A document that lists the parts of an operation states none, but is taken for one and sent. A
patch of an object whose name holds a hash goes to another object. -/
theorem exists_patch_astray :
    let existing (name : String) : Object :=
      ⟨some Kind.configMap.typeMeta, [("name", .str name)], []⟩
    let echoing : Session := .new [.answer 200 .echo false] .noMore
    let document := "[[\"remove\",\"/data\"]]".toUTF8
    let members : Members :=
      [("data", .obj [("a", .str "b")]), ("metadata", .obj [("name", .str "settings#")])]
    (∃ items, documentValue document = .ok (.arr items) ∧
      ∀ operations, ¬ List.Forall₂ (flip Operation.StatedBy) items operations) ∧
    (((new .configMap "apps").patch (existing "settings") (.bytes document) .json).run.run
        echoing).2.requests =
      [⟨.patch, "/api/v1/namespaces/apps/configmaps/settings", [],
        some "application/json-patch+json",
        some (.arr [.obj [("op", .str "remove"), ("path", .str "/data")]])⟩] ∧
    (((new .configMap "apps").patch (existing "settings#") (.map members) .strategic).run.run
        echoing).2.requests =
      [⟨.patch, "/api/v1/namespaces/apps/configmaps/settings", [],
        some "application/strategic-merge-patch+json",
        some (.obj [("data", .obj [("a", .str "b")])])⟩] := by
  intro existing echoing document members
  refine ⟨⟨[.arr [.str "remove", .str "/data"]], by decide +kernel, fun operations h ↦ ?_⟩,
    by decide +kernel, by decide +kernel⟩
  obtain ⟨operation, _, hstated, -, -⟩ := List.forall₂_cons_left_iff.1 h
  exact nomatch (Operation.statedBy_iff.1 hstated).1

end Handler

end ClusterObjects
