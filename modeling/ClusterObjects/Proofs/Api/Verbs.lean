import ClusterObjects.Api.Discovery
import ClusterObjects.Proofs.Api.Address
import ClusterObjects.Proofs.Api.Exchange

/-!
# What the verbs send

An operation of an endpoint sends the one request that is built for it, and the mapping of a kind is
asked for with requests that read. What is built for a verb that is told to rehearse is a rehearsal:
a deletion says so in its body, and the other writes in their query, as far as the query arrives at
the path that is meant.
-/

namespace ClusterObjects

/-- The request changes nothing on the server. -/
def Request.Reads (request : Request) : Prop := request.method = .get

variable {P : Request → Prop} {endpoint : Endpoint}

namespace Endpoint

theorem sends_create {params : PostParams} {object : Object}
    (h : ∀ request, endpoint.createRequest? params object = some request → P request) :
    (endpoint.create params object).Sends P :=
  .bind (.call h) fun _ ↦ .decoded _

theorem sends_replace {name : String} {params : PostParams} {object : Object}
    (h : ∀ request, endpoint.replaceRequest? name params object = some request → P request) :
    (endpoint.replace name params object).Sends P :=
  .bind (.call h) fun _ ↦ .decoded _

theorem sends_delete {name : String} {params : DeleteParams}
    (h : ∀ request, endpoint.deleteRequest? name params = some request → P request) :
    (endpoint.delete name params).Sends P := by
  refine .bind (.call h) fun value ↦ ?_
  split
  · split
    · exact .pure ()
    · exact .throw _
  · exact .bind (.decoded _) fun _ ↦ .pure ()

theorem sends_patch {name : String} {params : PatchParams} {patch : Patch}
    (h : ∀ request, endpoint.patchRequest? name params patch = some request → P request) :
    (endpoint.patch name params patch).Sends P :=
  .bind (.call h) fun _ ↦ .decoded _

theorem sends_get {name : String}
    (h : ∀ request, endpoint.getRequest? name = some request → P request) :
    (endpoint.get name).Sends P :=
  .bind (.call h) fun _ ↦ .decoded _

theorem sends_list {params : ListParams}
    (h : ∀ request, endpoint.listRequest? (listQuery params) = some request → P request) :
    (endpoint.list params).Sends P := by
  have hpage : (endpoint.listPage (listQuery params)).Sends P :=
    .bind (.call h) fun _ ↦ .decoded _
  exact .bind hpage fun page ↦ .pure page.items

theorem reads_of_getRequest? {name : String} {request : Request}
    (h : endpoint.getRequest? name = some request) : request.Reads := by
  obtain ⟨path, -, hbuild⟩ := Option.bind_eq_some_iff.1 h
  exact (Request.build?_eq hbuild).1

theorem reads_of_listRequest? {query : List (String × String)} {request : Request}
    (h : endpoint.listRequest? query = some request) : request.Reads :=
  (Request.build?_eq h).1

theorem reads_get (endpoint : Endpoint) (name : String) : (endpoint.get name).Sends Request.Reads :=
  sends_get fun _ ↦ reads_of_getRequest?

theorem reads_list (endpoint : Endpoint) (params : ListParams) :
    (endpoint.list params).Sends Request.Reads :=
  sends_list fun _ ↦ reads_of_listRequest?

end Endpoint

theorem Discovery.sends_ask (gvk : GroupVersionKind) : (ask gvk).Sends Request.Reads := by
  refine .bind (.call fun request hrequest ↦ (Request.build?_eq hrequest).1) fun value ↦ ?_
  refine .bind (.decoded _) fun list ↦ ?_
  split
  · exact .pure _
  · exact .throw _

theorem Session.sends_mapping (gvk : GroupVersionKind) : (mapping gvk).Sends Request.Reads := by
  unfold mapping
  refine .bind (.of_sent_eq fun _ ↦ rfl) fun session ↦ ?_
  split
  · exact .pure _
  · refine .bind (.adapt _ (Discovery.sends_ask gvk)) fun mapping ↦ ?_
    exact .bind (.of_sent_eq fun _ ↦ rfl) fun _ ↦ .pure _

/-! ## Destinations -/

/-- What a request goes to: a collection in a namespace or in all of them, or an object in it. -/
structure Destination where
  group : String
  apiVersion : String
  plural : String
  scope? : Option String
  name? : Option String

namespace Destination

def path (goal : Destination) : String :=
  collectionPath goal.group goal.apiVersion goal.plural goal.scope?
    ++ (match goal.name? with
      | some name => "/" ++ name
      | none => "")

/-- Only names can end the path of a destination early. -/
theorem isWhole_path_iff (goal : Destination) :
    Request.IsWhole goal.path ↔
      Request.IsWhole goal.apiVersion ∧ Request.IsWhole goal.plural ∧
        (∀ name, goal.scope? = some name → Request.IsWhole name) ∧
        ∀ name, goal.name? = some name → Request.IsWhole name := by
  have hroot : Request.IsWhole (if goal.group.isEmpty then "/api/" else "/apis/") := by
    split <;> decide
  have hslash : Request.IsWhole "/" := by decide
  have hscope : Request.IsWhole "namespaces/" := by decide
  unfold path collectionPath
  generalize (if goal.group.isEmpty then "/api/" else "/apis/") = root at hroot ⊢
  cases goal.scope? <;> cases goal.name? <;>
    simp [Request.isWhole_append, hroot, hslash, hscope, and_assoc, and_left_comm, and_comm]

end Destination

/-! ## Rehearsals -/

namespace Request

/-- The pair that marks a request as a dry run. -/
def dryRunMark : String × String := ("dryRun", "All")

/-- A request that is sent as a rehearsal, where it is told which paths are meant. A deletion says
so in its body. Any other write was given the mark in its query; the mark arrives unless a hash ends
the path that is meant, and then only if that path spells the mark itself. -/
structure Rehearses (meant : Request → String → Prop) (request : Request) : Prop where
  delete : request.method = .delete →
    ∃ body, request.body = some body ∧ body.get? "dryRun" = some (Json.strings ["All"])
  write : request.method = .post ∨ request.method = .put ∨ request.method = .patch →
    ∃ path, meant request path ∧
      (∃ rest, build? request.method path (some (dryRunMark :: rest)) request.contentType
        request.body = some request) ∧
      (dryRunMark ∈ request.query ↔ '#' ∉ path.toList ∨ dryRunMark ∈ ownQuery path)

namespace Rehearses

variable {meant : Request → String → Prop} {method : Method} {path : String}
  {contentType : Option String} {body : Option Json} {request : Request}

theorem of_reads (h : request.Reads) : request.Rehearses meant := by
  have hget : request.method = .get := h
  constructor
  · intro hmethod
    simp [hget] at hmethod
  · intro hmethod
    simp [hget] at hmethod

theorem mono {others : Request → String → Prop} (h : request.Rehearses meant)
    (himp : ∀ path, meant request path → others request path) : request.Rehearses others where
  delete := h.delete
  write hmethod := by
    obtain ⟨path, hmeant, hmarked⟩ := h.write hmethod
    exact ⟨path, himp path hmeant, hmarked⟩

/-- A write that was given the mark, and perhaps a field manager, is a rehearsal. -/
theorem of_marked (manager : Option String) (hmethod : method ≠ .delete)
    (h : build? method path (some (dryRunMark :: Endpoint.pairs [("fieldManager", manager)]))
      contentType body = some request)
    (hmeant : request.method = method → request.body = body → meant request path) :
    request.Rehearses meant := by
  obtain ⟨rfl, rfl, rfl⟩ := build?_eq h
  have hmark := mem_query_iff List.mem_cons_self h
  exact ⟨fun hdelete ↦ absurd hdelete hmethod,
    fun _ ↦ ⟨path, hmeant rfl rfl, ⟨_, h⟩, hmark⟩⟩

end Rehearses

end Request

namespace Endpoint

variable {meant : Request → String → Prop} {request : Request}

theorem objectPath?_eq_some_iff {name path : String} :
    endpoint.objectPath? name = some path ↔ name ≠ "" ∧ endpoint.path ++ "/" ++ name = path := by
  simp [objectPath?]

theorem rehearses_of_createRequest? {params : PostParams} {object : Object}
    (hdry : params.dryRun = true) (h : endpoint.createRequest? params object = some request)
    (hmeant : request.method = .post → request.body = some object.toJson →
      meant request endpoint.path) : request.Rehearses meant := by
  obtain ⟨-, hbuild⟩ := (Option.ite_none_right_eq_some ..).1 h
  unfold postQuery at hbuild
  rw [hdry] at hbuild
  exact .of_marked _ (by decide) hbuild hmeant

theorem rehearses_of_replaceRequest? {name : String} {params : PostParams} {object : Object}
    (hdry : params.dryRun = true) (h : endpoint.replaceRequest? name params object = some request)
    (hmeant : request.method = .put → request.body = some object.toJson →
      meant request (endpoint.path ++ "/" ++ name)) : request.Rehearses meant := by
  obtain ⟨path, hpath, hbuild⟩ := Option.bind_eq_some_iff.1 h
  obtain ⟨-, rfl⟩ := objectPath?_eq_some_iff.1 hpath
  unfold postQuery at hbuild
  rw [hdry] at hbuild
  exact .of_marked _ (by decide) hbuild hmeant

theorem rehearses_of_patchRequest? {name : String} {params : PatchParams} {patch : Patch}
    (hdry : params.dryRun = true) (h : endpoint.patchRequest? name params patch = some request)
    (hmeant : request.method = .patch → meant request (endpoint.path ++ "/" ++ name)) :
    request.Rehearses meant := by
  obtain ⟨path, hpath, hfits⟩ := Option.bind_eq_some_iff.1 h
  obtain ⟨-, rfl⟩ := objectPath?_eq_some_iff.1 hpath
  obtain ⟨-, hbuild⟩ := (Option.ite_none_right_eq_some ..).1 hfits
  rw [hdry] at hbuild
  exact .of_marked _ (by decide) hbuild fun hmethod _ ↦ hmeant hmethod

theorem deleteBody_dryRun {params : DeleteParams} (hdry : params.dryRun = true) :
    (deleteBody params).get? "dryRun" = some (Json.strings ["All"]) := by
  unfold deleteBody
  rw [hdry]
  cases params.gracePeriodSeconds <;> cases params.propagation <;> rfl

theorem rehearses_of_deleteRequest? {name : String} {params : DeleteParams}
    (hdry : params.dryRun = true) (h : endpoint.deleteRequest? name params = some request) :
    request.Rehearses meant := by
  obtain ⟨path, -, hbuild⟩ := Option.bind_eq_some_iff.1 h
  obtain ⟨hmethod, -, hbody⟩ := Request.build?_eq hbuild
  exact ⟨fun _ ↦ ⟨_, hbody, deleteBody_dryRun hdry⟩, fun hwrite ↦ by simp [hmethod] at hwrite⟩

end Endpoint

end ClusterObjects
