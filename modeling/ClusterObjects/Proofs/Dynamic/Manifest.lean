import ClusterObjects.Proofs.Dynamic.Place
import ClusterObjects.Proofs.Object.Manifest

/-!
# Manifests, object by object

A manifest is decoded before anything is sent. Its objects are then applied in the order of the text
and deleted in the opposite order, each with the requests that it would have had alone, until one of
them fails. `manifest_in_turn` says so of any manifest and any answers, and that a deletion goes
back over the paths that the application has addressed, as long as no name ends a path early.
-/

namespace ClusterObjects

variable {α : Type}

/-! ## One after another -/

/-- Objects are dealt with one after another, each with its own requests, until one of them
fails. -/
inductive InTurn (act : Object → Exchange α) :
    List Object → Session → List (List Request) → Except Error (List α) → Session → Prop where
  | finished (session : Session) : InTurn act [] session [] (.ok []) session
  | stopped {object : Object} {rest : List Object} {before after : Session} {part : List Request}
      {error : Error} (hrun : (act object).run.run before = (.error error, after))
      (hsent : after.requests = before.requests ++ part) :
      InTurn act (object :: rest) before [part] (.error error) after
  | went {object : Object} {rest : List Object} {before between after : Session}
      {part : List Request} {parts : List (List Request)} {value : α}
      {result : Except Error (List α)} (hrun : (act object).run.run before = (.ok value, between))
      (hsent : between.requests = before.requests ++ part)
      (hrest : InTurn act rest between parts result after) :
      InTurn act (object :: rest) before (part :: parts) (result.map (value :: ·)) after

namespace InTurn

variable {act : Object → Exchange α} {objects : List Object} {before after : Session}
  {parts : List (List Request)} {result : Except Error (List α)}

theorem requests_eq (h : InTurn act objects before parts result after) :
    after.requests = before.requests ++ parts.flatten := by
  induction h with
  | finished => exact (List.append_nil _).symm
  | stopped _ hsent => rw [hsent, List.flatten_singleton]
  | went _ hsent _ ih => rw [ih, hsent, List.flatten_cons, List.append_assoc]

theorem length_eq (h : InTurn act objects before parts result after) {values : List α}
    (hvalues : result = .ok values) : values.length = objects.length := by
  induction h generalizing values with
  | finished =>
    cases hvalues
    rfl
  | stopped => cases hvalues
  | @went object rest _ _ _ _ _ value result _ _ _ ih =>
    cases result with
    | error error => cases hvalues
    | ok others =>
      cases hvalues
      exact congrArg (· + 1) (ih rfl)

/-- Whatever the objects are sent and answered, they are dealt with one after another. -/
theorem exists_of_sends (hsends : ∀ object, (act object).Sends fun _ ↦ True)
    (objects : List Object) (before : Session) :
    ∃ parts result after, InTurn act objects before parts result after := by
  induction objects generalizing before with
  | nil => exact ⟨[], .ok [], before, .finished before⟩
  | cons object rest ih =>
    obtain ⟨sent, hsent, -⟩ := hsends object before
    rcases hrun : (act object).run.run before with ⟨answer, between⟩
    rw [hrun] at hsent
    have hpart : between.requests = before.requests ++ sent.reverse := by
      unfold Session.requests
      rw [hsent, List.reverse_append]
    cases answer with
    | error error => exact ⟨_, _, _, .stopped hrun hpart⟩
    | ok value =>
      obtain ⟨parts, result, after, hrest⟩ := ih between
      exact ⟨_, _, _, .went hrun hpart hrest⟩

/-- What holds of the requests of each object, in every session that knows what was known when it
had been dealt with, holds of them in the last session. -/
theorem forall₂ {R : Session → Object → List Request → Prop} {values : List α}
    (hstep : ∀ object value before after part, (act object).run.run before = (.ok value, after) →
      after.requests = before.requests ++ part →
      before.Remembers after ∧ ∀ known, after.Remembers known → R known object part)
    (h : InTurn act objects before parts (.ok values) after) :
    before.Remembers after ∧ List.Forall₂ (R after) objects parts := by
  generalize hresult : Except.ok values = result at h
  induction h generalizing values with
  | finished => exact ⟨.refl _, .nil⟩
  | stopped => cases hresult
  | @went object rest _ _ _ part _ value result hrun hsent _ ih =>
    cases result with
    | error error => cases hresult
    | ok others =>
      obtain ⟨hbetween, hall⟩ := hstep object value _ _ part hrun hsent
      obtain ⟨hrest, hparts⟩ := ih rfl
      exact ⟨hbetween.trans hrest, .cons (hall _ hrest) hparts⟩

end InTurn

namespace DynamicHandler

variable {handler : DynamicHandler} {objects : List Object} {before after : Session}
  {parts : List (List Request)}

/-- Applies an object that was read before. -/
def applying (handler : DynamicHandler) (object : Object) : Exchange Object :=
  handler.apply (.object object)

/-- Deletes an object that was read before. -/
def deleting (handler : DynamicHandler) (object : Object) : Exchange Unit :=
  handler.delete (.object object)

theorem applying_eq (handler : DynamicHandler) (object : Object) :
    handler.applying object = handler.applyObject object := rfl

theorem run_applyAll {result : Except Error (List Object)}
    (h : InTurn handler.applying objects before parts result after) :
    (handler.applyAll objects).run.run before = (result, after) := by
  induction h with
  | finished => rfl
  | stopped hrun _ => rw [applyAll, ← applying_eq, Exchange.run_bind, hrun]
  | @went object rest _ _ _ _ _ value result hrun _ _ ih =>
    rw [applyAll, ← applying_eq, Exchange.run_bind, hrun]
    dsimp only
    rw [Exchange.run_bind, ih]
    cases result <;> rfl

theorem run_deleteAll {result : Except Error (List Unit)}
    (h : InTurn handler.deleting objects before parts result after) :
    (handler.deleteAll objects).run.run before = (result.map fun _ ↦ (), after) := by
  induction h with
  | finished => rfl
  | stopped hrun _ =>
    rw [deleteAll, ← deleting, Exchange.run_bind, hrun]
    rfl
  | @went object rest _ _ _ _ _ value result hrun _ _ ih =>
    rw [deleteAll, ← deleting, Exchange.run_bind, hrun]
    dsimp only
    rw [ih]
    cases result <;> rfl

/-- Nothing is asked of the requests of a handler. -/
theorem only_true (handler : DynamicHandler) (objects : List Object) :
    handler.Only (fun _ _ ↦ True) objects where
  reads _ _ _ := trivial
  creation _ _ _ _ _ _ _ := trivial
  replacement _ _ _ _ _ _ _ _ _ := trivial
  deletion _ _ _ _ _ _ := trivial
  patch _ _ _ _ _ _ _ _ _ _ := trivial

theorem sends_applying (handler : DynamicHandler) (object : Object) :
    (handler.applying object).Sends fun _ ↦ True := fun session ↦
  (advances_applyObject (handler.only_true [object]) (List.mem_singleton_self _)
    session).extends_self

theorem sends_deleting (handler : DynamicHandler) (object : Object) :
    (handler.deleting object).Sends fun _ ↦ True := fun session ↦
  (advances_delete (handler.only_true []) (.object object) session).extends_self

/-! ## There and back -/

theorem exists_applying (handler : DynamicHandler) (objects : List Object) (before : Session) :
    ∃ parts, InTurn handler.applying objects before parts
      ((handler.applyAll objects).run.run before).1
      ((handler.applyAll objects).run.run before).2 := by
  obtain ⟨parts, result, after, h⟩ := InTurn.exists_of_sends handler.sends_applying objects before
  exact ⟨parts, by rwa [run_applyAll h]⟩

theorem exists_deleting (handler : DynamicHandler) (objects : List Object) (before : Session) :
    ∃ parts answers, InTurn handler.deleting objects before parts answers
        ((handler.deleteAll objects).run.run before).2 ∧
      ((handler.deleteAll objects).run.run before).1 = answers.map fun _ ↦ () := by
  obtain ⟨parts, result, after, h⟩ := InTurn.exists_of_sends handler.sends_deleting objects before
  exact ⟨parts, result, by rwa [run_deleteAll h], by rw [run_deleteAll h]⟩

/-- The kinds of the objects are served at the same places in both sessions. -/
def SamePlaces (objects : List Object) (first second : Session) : Prop :=
  ∀ object ∈ objects, ∀ gvk, object.gvk = .ok gvk → second.learned? gvk = first.learned? gvk

/-- No namespace and no name ends the path of an object early. -/
def WholePaths (handler : DynamicHandler) (known : Session) (objects : List Object) : Prop :=
  ∀ object ∈ objects, ∀ path, handler.objectPath? known object = some path → Request.IsWhole path

theorem objectPath?_congr {first second : Session} (h : SamePlaces objects first second) :
    ∀ object ∈ objects, handler.objectPath? second object = handler.objectPath? first object := by
  intro object hmem
  have hcollection : handler.collection? second object = handler.collection? first object := by
    unfold collection?
    cases hgvk : object.gvk with
    | error error => rfl
    | ok gvk =>
      dsimp only
      rw [h object hmem gvk hgvk]
  unfold objectPath?
  rw [hcollection]

/-- The paths of the deletions among the requests. -/
def deletedPaths (requests : List Request) : List String :=
  (requests.filter (·.method == .delete)).map (·.path)

theorem deletedPaths_append (first second : List Request) :
    deletedPaths (first ++ second) = deletedPaths first ++ deletedPaths second := by
  unfold deletedPaths
  rw [List.filter_append, List.map_append]

theorem Removes.exists_path {known : Session} {object : Object} {part : List Request}
    (h : handler.Removes known object part) :
    ∃ path, deletedPaths part = [path] ∧ handler.objectPath? known object = some path := by
  obtain @⟨lookups, last, hlookups, hmethod, hpath⟩ := h
  refine ⟨last.path, ?_, hpath⟩
  have hnone : lookups.filter (·.method == .delete) = [] := by
    rw [List.filter_eq_nil_iff]
    intro request hmem
    simp [hlookups request hmem]
  unfold deletedPaths
  rw [List.filter_append, hnone]
  simp [hmethod]

theorem deletedPaths_flatten {known : Session}
    (h : List.Forall₂ (handler.Removes known) objects parts) :
    (deletedPaths parts.flatten).map some = objects.map (handler.objectPath? known) := by
  induction h with
  | nil => rfl
  | @cons object part rest parts hpart _ ih =>
    obtain ⟨path, hdeleted, hpath⟩ := hpart.exists_path
    simp [deletedPaths_append, hdeleted, hpath, ih]

/-- Objects that have been applied, as far as their paths are known and whole. -/
theorem addresses_of_inTurn {values : List Object}
    (h : InTurn handler.applying objects before parts (.ok values) after) :
    List.Forall₂ (fun object part ↦ ∀ path, handler.objectPath? after object = some path →
      Request.IsWhole path → handler.Addresses after object part) objects parts := by
  refine (h.forall₂ (R := fun known object part ↦ ∀ path,
    handler.objectPath? known object = some path → Request.IsWhole path →
      handler.Addresses known object part) ?_).2
  intro object value before after part hrun hpart
  have hdone := applied_of_run hrun
  refine ⟨hdone.remembers, ?_⟩
  intro known hremembers path hpath hwhole
  exact hdone.addresses hremembers hpart hpath hwhole

/-- Objects that have been deleted had names and known kinds. -/
theorem removes_of_inTurn {answers : List Unit}
    (h : InTurn handler.deleting objects before parts (.ok answers) after) :
    (∀ object ∈ objects, ∃ path, handler.objectPath? after object = some path) ∧
      List.Forall₂ (fun object part ↦ ∀ path, handler.objectPath? after object = some path →
        Request.IsWhole path → handler.Removes after object part) objects parts := by
  rw [← List.forall₂_and_left]
  refine (h.forall₂ (R := fun known object part ↦
    (∃ path, handler.objectPath? known object = some path) ∧ ∀ path,
      handler.objectPath? known object = some path → Request.IsWhole path →
        handler.Removes known object part) ?_).2
  intro object value before after part hrun hpart
  have hdone := deleted_of_run hrun
  refine ⟨hdone.remembers, ?_⟩
  intro known hremembers
  obtain ⟨path, hpath, hremoves⟩ := hdone.removes hremembers hpart
  refine ⟨⟨path, hpath⟩, ?_⟩
  intro other hother
  obtain rfl := Option.some.inj (hpath.symm.trans hother)
  exact hremoves

/-- Objects that were applied are deleted in the opposite order, at the paths that the application
has addressed. -/
theorem mirrors {there back : List (List Request)} {before known other final : Session}
    {values : List Object} {answers : List Unit}
    (hthere : InTurn handler.applying objects before there (.ok values) known)
    (hback : InTurn handler.deleting objects.reverse other back (.ok answers) final)
    (hplaces : SamePlaces objects known final) (hwhole : handler.WholePaths known objects) :
    List.Forall₂ (handler.Addresses known) objects there ∧
      (deletedPaths back.flatten).map some =
        (objects.map (handler.objectPath? known)).reverse := by
  have hsame : ∀ object ∈ objects,
      handler.objectPath? final object = handler.objectPath? known object :=
    objectPath?_congr hplaces
  obtain ⟨hnamed, hremoves⟩ := removes_of_inTurn hback
  have hpaths : ∀ object ∈ objects, ∃ path, handler.objectPath? known object = some path ∧
      Request.IsWhole path := by
    intro object hmem
    obtain ⟨path, hpath⟩ := hnamed object (List.mem_reverse.2 hmem)
    rw [hsame object hmem] at hpath
    exact ⟨path, hpath, hwhole object hmem path hpath⟩
  constructor
  · have happlied := (List.forall₂_and_left _ _).2 ⟨hpaths, addresses_of_inTurn hthere⟩
    refine happlied.imp ?_
    rintro object part ⟨⟨path, hpath, hpathWhole⟩, haddresses⟩
    exact haddresses path hpath hpathWhole
  · have hknown : ∀ object ∈ objects.reverse, ∃ path,
        handler.objectPath? final object = some path ∧ Request.IsWhole path := by
      intro object hmem
      have hobject := List.mem_reverse.1 hmem
      rw [hsame object hobject]
      exact hpaths object hobject
    have hdeleted : List.Forall₂ (handler.Removes final) objects.reverse back := by
      refine ((List.forall₂_and_left _ _).2 ⟨hknown, hremoves⟩).imp ?_
      rintro object part ⟨⟨path, hpath, hpathWhole⟩, hremoved⟩
      exact hremoved path hpath hpathWhole
    rw [deletedPaths_flatten hdeleted, List.map_reverse, List.map_congr_left hsame]

theorem run_applyManifest {data : ByteArray} (h : Manifest.objects data = .ok objects)
    (session : Session) : (handler.applyManifest data).run.run session =
      (handler.applyAll objects).run.run session := by
  unfold applyManifest
  rw [Exchange.run_lift_bind, h]

theorem run_deleteManifest {data : ByteArray} (h : Manifest.objects data = .ok objects)
    (session : Session) : (handler.deleteManifest data).run.run session =
      (handler.deleteAll objects.reverse).run.run session := by
  unfold deleteManifest
  rw [Exchange.run_lift_bind, h]

/-- A manifest that cannot be decoded is not sent. -/
theorem run_manifest_of_error {data : ByteArray} {error : Error}
    (h : Manifest.objects data = .error error) (session other : Session) :
    (handler.applyManifest data).run.run session = (.error error, session) ∧
      (handler.deleteManifest data).run.run other = (.error error, other) := by
  unfold applyManifest deleteManifest
  rw [Exchange.run_lift_bind, Exchange.run_lift_bind, h]
  exact ⟨rfl, rfl⟩

/-- A manifest is decoded leaf by leaf before anything is sent. Its objects are applied in order and
deleted in the opposite order, up to the first failure. When all of that succeeds the deletions go
to the paths that the application has addressed, from the last one back, unless a name ends a path
early. -/
theorem manifest_in_turn (handler : DynamicHandler) (data : ByteArray) (session other : Session) :
    let applied := (handler.applyManifest data).run.run session
    let deleted := (handler.deleteManifest data).run.run other
    match Yaml.documents? data with
    | none => applied = (.error .yaml, session) ∧ deleted = (.error .yaml, other)
    | some documents => ∃ leaves, Manifest.Unfolds documents leaves ∧
      match leaves.mapM Manifest.leaf with
      | .error error => applied = (.error error, session) ∧ deleted = (.error error, other)
      | .ok objects => ∃ there back answers,
        InTurn handler.applying objects session there applied.1 applied.2 ∧
        applied.2.requests = session.requests ++ there.flatten ∧
        (∀ values, applied.1 = .ok values → values.length = objects.length) ∧
        InTurn handler.deleting objects.reverse other back answers deleted.2 ∧
        deleted.2.requests = other.requests ++ back.flatten ∧
        deleted.1 = answers.map (fun _ ↦ ()) ∧
        ∀ values, applied.1 = .ok values → deleted.1 = .ok () →
          SamePlaces objects applied.2 deleted.2 → handler.WholePaths applied.2 objects →
          List.Forall₂ (handler.Addresses applied.2) objects there ∧
            (deletedPaths back.flatten).map some =
              (objects.map (handler.objectPath? applied.2)).reverse := by
  intro applied deleted
  cases hdocuments : Yaml.documents? data with
  | none =>
    have hobjects : Manifest.objects data = .error .yaml := by
      unfold Manifest.objects
      rw [hdocuments]
    exact run_manifest_of_error hobjects session other
  | some documents =>
    obtain ⟨leaves, hleaves, hobjects⟩ := Manifest.objects_eq hdocuments
    refine ⟨leaves, hleaves, ?_⟩
    cases hread : leaves.mapM Manifest.leaf with
    | error error => exact run_manifest_of_error (hobjects.trans hread) session other
    | ok objects =>
      have happlied : applied = (handler.applyAll objects).run.run session :=
        run_applyManifest (hobjects.trans hread) session
      have hdeleted : deleted = (handler.deleteAll objects.reverse).run.run other :=
        run_deleteManifest (hobjects.trans hread) other
      obtain ⟨there, hthere⟩ := handler.exists_applying objects session
      obtain ⟨back, answers, hback, hresult⟩ := handler.exists_deleting objects.reverse other
      rw [← happlied] at hthere
      rw [← hdeleted] at hback hresult
      refine ⟨there, back, answers, hthere, hthere.requests_eq, fun _ ↦ hthere.length_eq, hback,
        hback.requests_eq, hresult, ?_⟩
      intro values hvalues hunit hplaces hwhole
      cases answers with
      | error error => cases hresult.symm.trans hunit
      | ok answers => exact mirrors (hvalues ▸ hthere) hback hplaces hwhole

/-- A namespace that is there already and an object in it, in a list and in a document of its own,
are applied and deleted again, the object first. -/
theorem manifest_in_turn_and_back :
    let handler := DynamicHandler.new "apps"
    let objects : List Object := [⟨some Kind.namespaceKind.typeMeta, [("name", .str "demo")], []⟩,
      ⟨some Kind.configMap.typeMeta, [("name", .str "settings"), ("namespace", .str "demo")], []⟩]
    let start := Session.new [.ofFailure 409 "AlreadyExists"] (.answer 200 .echo false)
    ∃ data, Manifest.objects data = .ok objects ∧
      let applied := (handler.applyManifest data).run.run start
      let deleted := (handler.deleteManifest data).run.run applied.2
      applied.1 = .ok objects ∧ deleted.1 = .ok () ∧ SamePlaces objects applied.2 deleted.2 ∧
        handler.WholePaths applied.2 objects ∧
        ∃ there back : List (List Request), applied.2.requests = there.flatten ∧
          List.Forall₂ (handler.Addresses applied.2) objects there ∧
          deleted.2.requests = applied.2.requests ++ back.flatten ∧
          (deletedPaths back.flatten).map some =
            (objects.map (handler.objectPath? applied.2)).reverse ∧
          deletedPaths back.flatten =
            ["/api/v1/namespaces/demo/configmaps/settings", "/api/v1/namespaces/demo"] := by
  intro handler objects start
  obtain ⟨data, hdata⟩ : ∃ data, Manifest.objects data = .ok objects :=
    ⟨("kind: List\nitems:\n- apiVersion: v1\n  kind: Namespace\n  metadata:\n" ++
      "    name: demo\n---\napiVersion: v1\nkind: ConfigMap\nmetadata:\n  name: settings\n" ++
      "  namespace: demo\n").toUTF8, by decide +kernel⟩
  refine ⟨data, hdata, ?_⟩
  intro applied deleted
  have hthere : applied = (handler.applyAll objects).run.run start :=
    run_applyManifest hdata start
  have hback : deleted = (handler.deleteAll objects.reverse).run.run applied.2 :=
    run_deleteManifest hdata applied.2
  obtain ⟨happlied, hdeleted, hmappings, hpaths, hremoved⟩ :
      applied.1 = .ok objects ∧ deleted.1 = .ok () ∧ deleted.2.mappings = applied.2.mappings ∧
        objects.map (handler.objectPath? applied.2) = [some "/api/v1/namespaces/demo",
          some "/api/v1/namespaces/demo/configmaps/settings"] ∧
        deletedPaths (deleted.2.requests.drop applied.2.requests.length) =
          ["/api/v1/namespaces/demo/configmaps/settings", "/api/v1/namespaces/demo"] := by
    rw [hback, hthere]
    decide +kernel
  have hplaces : SamePlaces objects applied.2 deleted.2 := by
    intro object _ gvk _
    unfold Session.learned?
    rw [hmappings]
  have hwhole : handler.WholePaths applied.2 objects := by
    intro object hmem path hpath
    have hfound : some path ∈ objects.map (handler.objectPath? applied.2) :=
      hpath ▸ List.mem_map_of_mem hmem
    rw [hpaths] at hfound
    simp only [List.mem_cons, Option.some.injEq, List.not_mem_nil, or_false] at hfound
    rcases hfound with rfl | rfl <;> decide +kernel
  have hturn := manifest_in_turn handler data start applied.2
  cases hdocuments : Yaml.documents? data with
  | none =>
    rw [hdocuments] at hturn
    cases happlied.symm.trans (congrArg Prod.fst hturn.1)
  | some documents =>
    rw [hdocuments] at hturn
    obtain ⟨leaves, hleaves, hturn⟩ := hturn
    obtain ⟨found, hfound, hread⟩ := Manifest.objects_eq hdocuments
    obtain rfl := hleaves.unique hfound
    rw [← hread, hdata] at hturn
    obtain ⟨there, back, answers, -, hsent, -, -, hagain, -, hmirrors⟩ := hturn
    obtain ⟨haddresses, hreverse⟩ := hmirrors _ happlied hdeleted hplaces hwhole
    rw [hagain, List.drop_left] at hremoved
    exact ⟨happlied, hdeleted, hplaces, hwhole, there, back, hsent, haddresses, hagain, hreverse,
      hremoved⟩

/-- A hash in the name of an object ends its path early: the deletion goes to another object than
the application. -/
theorem manifest_deletes_elsewhere :
    let handler := DynamicHandler.new "apps"
    let data := "apiVersion: v1\nkind: ConfigMap\nmetadata:\n  name: settings#\n".toUTF8
    let object : Object := ⟨some Kind.configMap.typeMeta, [("name", .str "settings#")], []⟩
    let applied := (handler.applyManifest data).run.run (.new [] (.answer 200 .echo false))
    let deleted := (handler.deleteManifest data).run.run applied.2
    Manifest.objects data = .ok [object] ∧ object.ownName? = some "settings#" ∧
      applied.1 = .ok [object] ∧ deleted.1 = .ok () ∧
      deleted.2.mappings = applied.2.mappings ∧
      handler.objectPath? applied.2 object = some "/api/v1/namespaces/apps/configmaps/settings#" ∧
      deletedPaths deleted.2.requests = ["/api/v1/namespaces/apps/configmaps/settings"] ∧
      (deletedPaths deleted.2.requests).map some ≠
        ([object].map (handler.objectPath? applied.2)).reverse := by
  decide +kernel

end DynamicHandler

end ClusterObjects
