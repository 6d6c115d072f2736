import ClusterObjects.Proofs.Dynamic.Place
import ClusterObjects.Proofs.Patch.Merge

/-!
# Patches and the type of an object

A dynamic handler patches an object by its difference from a desired one, which has to be of the
same type. Only a version and a kind together are a type, so only then is the desired object
checked. A version without a kind, or a kind without a version, is dropped when the object is read.
But a kind beside a version that is no text stays in the content of the object, and is sent in the
patch.
-/

namespace ClusterObjects

open Json (Members)

/-- The members that state a type. -/
def TypeMeta.keys : List String := ["apiVersion", "kind"]

def TypeMeta.text (types : TypeMeta) (key : String) : String :=
  if key = "kind" then types.kind else types.apiVersion

/-- The type as it is named in errors. -/
def TypeMeta.label (types : TypeMeta) : String := types.apiVersion ++ "/" ++ types.kind

namespace Object

/-- The type that members state. -/
def statedType? (members : Members) : Option TypeMeta :=
  match members.get? "apiVersion", members.get? "kind" with
  | some (.str apiVersion), some (.str kind) => some ⟨apiVersion, kind⟩
  | _, _ => none

/-- A member that states a part of a type but stays in the content of the object that is read. It is
a kind beside a version that is no text. -/
def stray? (members : Members) (key : String) : Option Json :=
  match members.get? "apiVersion" with
  | none | some (.str _) => none
  | some _ => if key = "kind" then members.get? "kind" else none

/-- No member of the content has the place of a type. -/
def IsPlain (object : Object) : Prop := ∀ key ∈ TypeMeta.keys, object.content.get? key = none

theorem takeTypes_fst (members : Members) : (takeTypes members).1 = statedType? members := by
  unfold takeTypes statedType?
  cases members.get? "apiVersion" with
  | none => cases members.get? "kind" <;> rfl
  | some version =>
    cases version with
    | str apiVersion =>
      cases members.get? "kind" with
      | none => rfl
      | some kind => cases kind <;> rfl
    | null | bool _ | num _ | arr _ | obj _ => rfl

theorem get?_takeTypes_snd (members : Members) {key : String} (hkey : key ∈ TypeMeta.keys) :
    (takeTypes members).2.get? key = stray? members key := by
  have hcases : key = "apiVersion" ∨ key = "kind" := by simpa [TypeMeta.keys] using hkey
  unfold takeTypes stray?
  cases hversion : members.get? "apiVersion" with
  | none =>
    cases hkind : members.get? "kind" <;> rcases hcases with rfl | rfl <;>
      simp [Members.get?_erase, hversion, hkind]
  | some version =>
    cases version with
    | str apiVersion =>
      cases hkind : members.get? "kind" with
      | none => rcases hcases with rfl | rfl <;> simp [Members.get?_erase, hkind]
      | some kind =>
        cases kind <;> rcases hcases with rfl | rfl <;> simp [Members.get?_erase]
    | null | bool _ | num _ | arr _ | obj _ =>
      rcases hcases with rfl | rfl <;> simp [Members.get?_erase]

theorem sorted_takeTypes_snd {members : Members} (h : members.Sorted) :
    (takeTypes members).2.Sorted := by
  unfold takeTypes
  cases members.get? "apiVersion" with
  | none =>
    cases members.get? "kind" with
    | none => exact h
    | some kind => exact h.erase _
  | some version =>
    cases version with
    | str apiVersion =>
      cases members.get? "kind" with
      | none => exact h.erase _
      | some kind => cases kind <;> exact (h.erase _).erase _
    | null | bool _ | num _ | arr _ | obj _ => exact h.erase _

/-- The metadata that members state, read by its schema. Members may state none. -/
def statedMetadata? (members : Members) : Option Members :=
  match members.get? "metadata" with
  | none => some []
  | some value =>
    match Schema.objectMeta.decode? value with
    | some (.obj metadata) => some metadata
    | _ => none

theorem ofJson?_obj (members : Members) :
    ofJson? (.obj members) = (statedMetadata? members).map fun metadata ↦
      ⟨(takeTypes (members.erase "metadata")).1, metadata,
        (takeTypes (members.erase "metadata")).2⟩ := by
  unfold ofJson? statedMetadata?
  dsimp only
  cases members.get? "metadata" with
  | none => rfl
  | some value =>
    dsimp only
    cases Schema.objectMeta.decode? value with
    | none => rfl
    | some metadata => cases metadata <;> rfl

/-- An object that is read has the type that its members state. What is stray stays in its
content. -/
theorem of_ofJson? {members : Members} {object : Object}
    (h : ofJson? (.obj members) = some object) :
    object.types = statedType? members ∧
      (∀ key ∈ TypeMeta.keys, object.content.get? key = stray? members key) ∧
      (members.Sorted → object.content.Sorted) := by
  rw [ofJson?_obj] at h
  obtain ⟨metadata, -, rfl⟩ := Option.map_eq_some_iff.1 h
  have hversion : (members.erase "metadata").get? "apiVersion" = members.get? "apiVersion" := by
    simp [Members.get?_erase]
  have hkind : (members.erase "metadata").get? "kind" = members.get? "kind" := by
    simp [Members.get?_erase]
  rw [takeTypes_fst]
  refine ⟨?_, fun key hkey ↦ ?_, fun hsorted ↦ sorted_takeTypes_snd (hsorted.erase _)⟩
  · unfold statedType?
    rw [hversion, hkind]
  · rw [get?_takeTypes_snd _ hkey]
    unfold stray?
    rw [hversion, hkind]

theorem get?_of_statedType? {members : Members} {types : TypeMeta}
    (h : statedType? members = some types) :
    members.get? "apiVersion" = some (.str types.apiVersion) ∧
      members.get? "kind" = some (.str types.kind) := by
  unfold statedType? at h
  split at h
  · next hversion hkind =>
    obtain rfl := Option.some.inj h
    exact ⟨hversion, hkind⟩
  · cases h

/-- Where a whole type is read, nothing of it stays in the content. -/
theorem isPlain_of_ofJson? {members : Members} {object : Object} {types : TypeMeta}
    (h : ofJson? (.obj members) = some object) (htypes : object.types = some types) :
    object.IsPlain := by
  obtain ⟨hstated, hcontent, -⟩ := of_ofJson? h
  rw [htypes] at hstated
  obtain ⟨hversion, -⟩ := get?_of_statedType? hstated.symm
  intro key hkey
  rw [hcontent key hkey]
  unfold stray?
  rw [hversion]

variable {object : Object} {types : TypeMeta}

theorem sorted_toMembers (h : object.content.Sorted) : object.toMembers.Sorted := by
  unfold toMembers
  cases object.types with
  | none => exact h.insert _ _
  | some types => exact ((h.insert _ _).insertNew _ _).insertNew _ _

/-- An object shows its type, unless its content has members in the place of it. -/
theorem get?_toMembers_of_types (h : object.types = some types) {key : String}
    (hkey : key ∈ TypeMeta.keys) :
    object.toMembers.get? key = some ((object.content.get? key).getD (.str (types.text key))) := by
  have hcases : key = "apiVersion" ∨ key = "kind" := by simpa [TypeMeta.keys] using hkey
  unfold toMembers
  rw [h]
  rcases hcases with rfl | rfl <;>
    simp [Members.get?_insertNew, Members.get?_insert, TypeMeta.text]

end Object

theorem DynamicHandler.object_map (members : Members) :
    object (.map members) =
      match Object.ofJson? (.obj members) with
      | some read => .ok read
      | none => .error .json := by
  unfold object Input.untyped Input.untypedValue
  dsimp only [Json.isObject]
  cases Object.ofJson? (.obj members) <;> rfl

namespace Input

/-- An input that hands over an object as a value. The members of the value stand in their order. -/
def IsStructured : Input → Prop
  | object given => given.content.Sorted
  | map members => members.Sorted
  | name _ | file _ | bytes _ => False

/-- The type that a structured input states. -/
def statedType? : Input → Option TypeMeta
  | object given => given.types
  | map members => Object.statedType? members
  | name _ | file _ | bytes _ => none

/-- What a structured input has in the place of a type although it is none. -/
def stray? (input : Input) (key : String) : Option Json :=
  match input with
  | object given => given.content.get? key
  | map members => Object.stray? members key
  | name _ | file _ | bytes _ => none

/-- A structured input stands for an object with the type that it states. -/
theorem of_object {input : Input} (h : input.IsStructured) {desired : Object}
    (hobject : DynamicHandler.object input = .ok desired) :
    desired.types = input.statedType? ∧
      (∀ key ∈ TypeMeta.keys, desired.content.get? key = input.stray? key) ∧
      desired.content.Sorted := by
  cases input with
  | object given =>
    cases hobject
    exact ⟨rfl, fun _ _ ↦ rfl, h⟩
  | map members =>
    have hread : Object.ofJson? (.obj members) = some desired := by
      rw [DynamicHandler.object_map] at hobject
      cases hvalue : Object.ofJson? (.obj members) with
      | none =>
        rw [hvalue] at hobject
        cases hobject
      | some read =>
        rw [hvalue] at hobject
        exact congrArg some (Except.ok.inj hobject)
    obtain ⟨htypes, hcontent, hsorted⟩ := Object.of_ofJson? hread
    exact ⟨htypes, hcontent, hsorted h⟩
  | name _ | file _ | bytes _ => cases h

end Input

namespace DynamicHandler

/-- Sends the patch of an existing object, if there is one. -/
def deliver (handler : DynamicHandler) (existing : Object) (endpoint : Endpoint) (name : String)
    (patch? : Option Patch) : Exchange Object :=
  match patch? with
  | none => return existing
  | some patch => endpoint.patch name handler.options.patch patch

theorem run_patch (handler : DynamicHandler) (existing : Object) (input : Input)
    (type : Option PatchType) (session : Session) :
    (handler.patch existing input type).run.run session =
      match (handler.locateObject existing).run.run session with
      | (.error error, after) => (.error error, after)
      | (.ok (_, endpoint, name), after) =>
        match patchOf existing input (type.getD .merge) with
        | .error error => (.error error, after)
        | .ok patch? => (handler.deliver existing endpoint name patch?).run.run after := by
  unfold patch
  rw [Exchange.run_bind]
  rcases (handler.locateObject existing).run.run session with ⟨result, after⟩
  cases result with
  | error error => rfl
  | ok place =>
    obtain ⟨gvk, endpoint, name⟩ := place
    dsimp only
    rw [Exchange.run_lift_bind]
    cases patchOf existing input (type.getD .merge) with
    | error error => rfl
    | ok patch? => cases patch? <;> rfl

theorem patchOf_of_isStructured {input : Input} (h : input.IsStructured) (existing : Object)
    (type : PatchType) :
    patchOf existing input type =
      match object input with
      | .error error => .error error
      | .ok desired =>
        match sameKind existing desired with
        | .error error => .error error
        | .ok desired => Patch.between existing.toJson desired.toJson type := by
  have hpatch : patchOf existing input type = (do
      let desired ← sameKind existing (← object input)
      Patch.between existing.toJson desired.toJson type) := by
    cases input with
    | object given => rfl
    | map members => rfl
    | name _ | file _ | bytes _ => cases h
  rw [hpatch]
  cases object input with
  | error error => rfl
  | ok desired =>
    change (sameKind existing desired >>= _) = _
    dsimp only
    cases sameKind existing desired <;> rfl

end DynamicHandler

namespace Patch

/-- A merge or strategic patch has the document as its body. -/
theorem exists_raw (document : Json) {type : PatchType} (htype : type ≠ .json) :
    ∃ patch?, raw document type = .ok patch? ∧ ∀ patch ∈ patch?, patch.body = document := by
  unfold raw
  by_cases hempty : isEmptyDocument document = true
  · exact ⟨none, if_pos hempty, fun _ h ↦ nomatch h⟩
  · rw [if_neg hempty]
    cases type with
    | json => exact absurd rfl htype
    | merge => exact ⟨some (merge document), rfl, fun _ h ↦ by cases h; rfl⟩
    | strategic => exact ⟨some (strategic document), rfl, fun _ h ↦ by cases h; rfl⟩

/-- Between two objects there is a patch or nothing to send. A merge or strategic patch has the
difference as its body. -/
theorem exists_between (before after : Json) (type : PatchType) :
    ∃ patch?, between before after type = .ok patch? ∧
      ∀ patch ∈ patch?, patch.type ≠ .json → patch.body = MergePatch.diff before after := by
  have hraw {type : PatchType} (htype : type ≠ .json) :
      ∃ patch?, raw (MergePatch.diff before after) type = .ok patch? ∧
        ∀ patch ∈ patch?, patch.type ≠ .json → patch.body = MergePatch.diff before after := by
    obtain ⟨patch?, hpatch, hbody⟩ := exists_raw (MergePatch.diff before after) htype
    exact ⟨patch?, hpatch, fun patch h _ ↦ hbody patch h⟩
  cases type with
  | json =>
    unfold between
    cases Operation.diff before after with
    | nil => exact ⟨none, rfl, fun _ h ↦ nomatch h⟩
    | cons operation rest =>
      refine ⟨some (json (operation :: rest)), rfl, fun patch h htype ↦ ?_⟩
      obtain rfl := Option.some.inj h
      exact absurd rfl htype
  | merge =>
    have hmerge : PatchType.merge ≠ .json := by decide
    exact hraw hmerge
  | strategic =>
    refine hraw ?_
    split <;> decide

end Patch

/-- A patch whose body states nothing of a type, but for what is stray in the input. -/
structure Request.KeepsType (types : TypeMeta) (input : Input) (request : Request) : Prop where
  method : request.method = .patch
  body : request.contentType ≠ some (Endpoint.patchContentType .json) →
    ∃ body, request.body = some body ∧ ∀ key ∈ TypeMeta.keys,
      body.get? key = (input.stray? key).bind fun stated ↦
        MergePatch.memberDiff (some (.str (types.text key))) (some stated)

namespace DynamicHandler

variable {handler : DynamicHandler} {existing desired : Object} {types : TypeMeta}

/-- Between objects of one type only what is stray is a difference in the type. -/
theorem get?_diff_of_types (hexisting : existing.types = some types) (hplain : existing.IsPlain)
    (hdesired : desired.types = some types) (hsorted : desired.content.Sorted) {key : String}
    (hkey : key ∈ TypeMeta.keys) :
    (MergePatch.diff existing.toJson desired.toJson).get? key =
      (desired.content.get? key).bind fun stated ↦
        MergePatch.memberDiff (some (.str (types.text key))) (some stated) := by
  have hbefore : existing.toJson.get? key = some (.str (types.text key)) := by
    change existing.toMembers.get? key = _
    rw [Object.get?_toMembers_of_types hexisting hkey, hplain key hkey, Option.getD_none]
  unfold Object.toJson at hbefore ⊢
  rw [MergePatch.get?_diff _ (Object.sorted_toMembers hsorted), hbefore,
    Object.get?_toMembers_of_types hdesired hkey]
  cases desired.content.get? key with
  | none => exact if_pos (Json.same_refl _)
  | some stated => rfl

theorem run_locateObject {name : String} {gvk : GroupVersionKind}
    (hname : existing.requiredName = .ok name) (hgvk : existing.gvk = .ok gvk)
    (session : Session) :
    (handler.locateObject existing).run.run session =
      match (Session.mapping gvk).run.run session with
      | (.error error, after) => (.error error, after)
      | (.ok mapping, after) =>
        (.ok (gvk, handler.endpoint mapping existing.namespace?, name), after) := by
  unfold locateObject
  rw [Exchange.run_lift_bind, hname]
  dsimp only
  rw [Exchange.run_lift_bind, hgvk]
  exact handler.run_endpointOf_bind gvk existing.namespace? _ session

/-- Sending a patch is no check of types, and its body is the patch. -/
theorem sends_patch_body (endpoint : Endpoint) (name : String) (params : PatchParams)
    (patch : Patch) (session : Session) :
    let outcome := (endpoint.patch name params patch).run.run session
    (∀ found expected, outcome.1 ≠ .error (.kindMismatch found expected)) ∧
      session.Extends (fun request ↦ request.method = .patch ∧
        request.contentType = some (Endpoint.patchContentType patch.type) ∧
        request.body = some patch.body) outcome.2 := by
  intro outcome
  have hasks := endpoint.asks_patch name params patch
  refine ⟨fun found expected h ↦ ?_, hasks.sends (fun request hrequest ↦ ?_) session⟩
  · have hrun : outcome = _ := hasks session
    rw [hrun] at h
    cases hrequest : endpoint.patchRequest? name params patch with
    | none =>
      rw [hrequest] at h
      cases h
    | some request =>
      rw [hrequest] at h
      obtain ⟨cause, hcause⟩ := Endpoint.objectIn_error h
      cases hcause
  · obtain ⟨path, -, hbuild⟩ := Option.bind_eq_some_iff.1 hrequest
    split at hbuild
    · exact Request.build?_eq hbuild
    · cases hbuild

/-- The difference from a desired object of the existing type is sent, if there is one. -/
theorem keepsType_deliver {input : Input} (hexisting : existing.types = some types)
    (hplain : existing.IsPlain) (hdesired : desired.types = some types)
    (hsorted : desired.content.Sorted)
    (hcontent : ∀ key ∈ TypeMeta.keys, desired.content.get? key = input.stray? key)
    {patch? : Option Patch} (hbody : ∀ patch ∈ patch?, patch.type ≠ .json →
      patch.body = MergePatch.diff existing.toJson desired.toJson)
    (endpoint : Endpoint) (name : String) (before : Session) :
    let outcome := (handler.deliver existing endpoint name patch?).run.run before
    (∀ found expected, outcome.1 ≠ .error (.kindMismatch found expected)) ∧
      before.Extends (Request.KeepsType types input) outcome.2 := by
  intro outcome
  cases patch? with
  | none => exact ⟨fun _ _ ↦ nofun, .refl before⟩
  | some patch =>
    obtain ⟨herror, hsent⟩ := sends_patch_body endpoint name handler.options.patch patch before
    refine ⟨herror, hsent.mono ?_⟩
    rintro request ⟨hmethod, htype, hrequest⟩
    refine ⟨hmethod, fun hdocument ↦ ⟨patch.body, hrequest, fun key hkey ↦ ?_⟩⟩
    have hjson : patch.type ≠ .json := fun h ↦ hdocument (by rw [htype, h])
    rw [hbody patch rfl hjson, get?_diff_of_types hexisting hplain hdesired hsorted hkey,
      hcontent key hkey]

theorem keepsType_between {input : Input} (hexisting : existing.types = some types)
    (hplain : existing.IsPlain) (hdesired : desired.types = some types)
    (hsorted : desired.content.Sorted)
    (hcontent : ∀ key ∈ TypeMeta.keys, desired.content.get? key = input.stray? key)
    (type : PatchType) (endpoint : Endpoint) (name : String) (before : Session) :
    let outcome : Except Error Object × Session :=
      match Patch.between existing.toJson desired.toJson type with
      | .error error => (.error error, before)
      | .ok patch? => (handler.deliver existing endpoint name patch?).run.run before
    (∀ found expected, outcome.1 ≠ .error (.kindMismatch found expected)) ∧
      before.Extends (Request.KeepsType types input) outcome.2 := by
  obtain ⟨patch?, hpatch, hbody⟩ := Patch.exists_between existing.toJson desired.toJson type
  rw [hpatch]
  exact keepsType_deliver hexisting hplain hdesired hsorted hcontent hbody endpoint name before

/-- A structured input that states another type than the existing object's is refused, and nothing
but the lookup of the kind is sent. Else it is not refused, and a merge or strategic patch has no
member of a type but for what is stray in the input. -/
theorem patch_keeps_type (handler : DynamicHandler) {existing : Object} {types : TypeMeta}
    (hexisting : existing.types = some types) (hplain : existing.IsPlain)
    {gvk : GroupVersionKind} (hgvk : existing.gvk = .ok gvk) {name : String}
    (hname : existing.requiredName = .ok name) {input : Input} (hinput : input.IsStructured)
    (type : Option PatchType) (session : Session) :
    let located := (Session.mapping gvk).run.run session
    let outcome := (handler.patch existing input type).run.run session
    session.Extends Request.Reads located.2 ∧
      match located.1, object input with
      | .error error, _ => outcome = (.error error, located.2)
      | .ok _, .error error => outcome = (.error error, located.2)
      | .ok _, .ok _ =>
        match input.statedType?.filter (· ≠ types) with
        | some other =>
          outcome = (.error (.kindMismatch other.label types.label), located.2)
        | none =>
          (∀ found expected, outcome.1 ≠ .error (.kindMismatch found expected)) ∧
            located.2.Extends (Request.KeepsType types input) outcome.2 := by
  intro located outcome
  refine ⟨Session.sends_mapping gvk session, ?_⟩
  have hrun : outcome = _ := run_patch handler existing input type session
  rw [run_locateObject hname hgvk, patchOf_of_isStructured hinput] at hrun
  rcases hlocated : located with ⟨result, after⟩
  rw [show (Session.mapping gvk).run.run session = (result, after) from hlocated] at hrun
  rw [hrun]
  cases result with
  | error error => rfl
  | ok mapping =>
    cases hobject : object input with
    | error error => rfl
    | ok desired =>
      obtain ⟨hstated, hcontent, hsorted⟩ := Input.of_object hinput hobject
      dsimp only
      unfold sameKind
      rw [hexisting, ← hstated]
      cases hdesired : desired.types with
      | none =>
        -- Filling in the type leaves the content as it was read.
        have hfilled : { desired with types := some types }.types = some types := rfl
        exact keepsType_between hexisting hplain hfilled hsorted hcontent _ _ _ after
      | some found =>
        dsimp only
        by_cases hsame : types = found
        · subst hsame
          rw [if_pos rfl, Option.filter_some_neg (by simp)]
          exact keepsType_between hexisting hplain hdesired hsorted hcontent _ _ _ after
        · rw [if_neg hsame, Option.filter_some_pos (by simpa using Ne.symm hsame)]
          rfl

/-! ## Patches of one object -/

/-- An object to patch, as it is read. -/
def settings : Object := ⟨some ⟨"v1", "ConfigMap"⟩, [("name", .str "settings")], []⟩

/-- A session in which what is sent comes back. -/
def echoing : Session := .new [.answer 200 .echo false] .noMore

/-- A map that states the whole type of another kind is refused. -/
theorem patch_keeps_type_secret :
    let members : Members := [("apiVersion", .str "v1"), ("kind", .str "Secret"),
      ("metadata", .obj [("name", .str "settings")])]
    settings.types = some ⟨"v1", "ConfigMap"⟩ ∧ settings.IsPlain ∧
      settings.gvk = .ok Kind.configMap.gvk ∧ settings.requiredName = .ok "settings" ∧
      members.Sorted ∧
      ((new "apps").patch settings (.map members) none).run.run echoing =
        (.error (.kindMismatch "v1/Secret" "v1/ConfigMap"), echoing) := by
  intro members
  have hgvk : settings.gvk = .ok Kind.configMap.gvk := by decide +kernel
  have hname : settings.requiredName = .ok "settings" := by decide +kernel
  have hread : Object.ofJson? settings.toJson = some settings := by decide +kernel
  have hplain : settings.IsPlain := Object.isPlain_of_ofJson? hread rfl
  have hsorted : members.Sorted := by
    unfold Members.Sorted
    decide +kernel
  have hinput : (Input.map members).IsStructured := hsorted
  have hlocated : (Session.mapping Kind.configMap.gvk).run.run echoing =
      (.ok (Mapping.ofKind .configMap).2, echoing) := Session.run_mapping_known rfl
  have hobject : object (.map members) =
      .ok ⟨some ⟨"v1", "Secret"⟩, [("name", .str "settings")], []⟩ := by
    decide +kernel
  have hrefused := (patch_keeps_type (new "apps") rfl hplain hgvk hname hinput none echoing).2
  rw [hlocated, hobject] at hrefused
  exact ⟨rfl, hplain, hgvk, hname, hsorted, hrefused⟩

/-- A map with a kind alone is taken for a map with no kind. One with a kind and a version that is
null changes the kind. -/
theorem exists_kind_unchecked :
    let ignored : Members := [("data", .obj [("a", .str "b")]), ("kind", .str "Secret"),
      ("metadata", .obj [("name", .str "settings")])]
    let sent : Members := [("apiVersion", .null), ("kind", .str "Secret"),
      ("metadata", .obj [("name", .str "settings")])]
    (((new "apps").patch settings (.map ignored) none).run.run echoing).2.requests =
        [⟨.patch, "/api/v1/namespaces/apps/configmaps/settings", [],
          some "application/merge-patch+json",
          some (.obj [("data", .obj [("a", .str "b")])])⟩] ∧
      (((new "apps").patch settings (.map sent) none).run.run echoing).2.requests =
        [⟨.patch, "/api/v1/namespaces/apps/configmaps/settings", [],
          some "application/merge-patch+json", some (.obj [("kind", .str "Secret")])⟩] := by
  decide +kernel

end DynamicHandler

end ClusterObjects
