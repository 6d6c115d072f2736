import ClusterObjects.Proofs.Api.Mapping

/-!
# The calls of a mapper

A mapper and its clones share what they know of the kinds: the mappings of a session. A `MapperCall`
looks up a kind or inserts a mapping. What a call adds to the shared knowledge is its lesson: the
mapping that it inserts, or the one that the server's reply to its request gives. After some calls a
kind is known from the last lesson on it, or else as it was at the start.
-/

namespace ClusterObjects

/-- A call of a mapper or of a clone of it. -/
inductive MapperCall where
  | mapping (gvk : GroupVersionKind)
  | resource (gvk : GroupVersionKind)
  | isNamespaced (gvk : GroupVersionKind)
  | resourceOf (object : Object)
  | insert (gvk : GroupVersionKind) (found : Mapping)

inductive MapperAnswer where
  | mapping (found : Mapping)
  | resource (found : GroupVersionResource)
  | isNamespaced (found : Bool)
  | done
  deriving DecidableEq, Repr

/-- The mapping that a reply to the discovery of a kind gives. -/
def Discovery.found? (gvk : GroupVersionKind) (reply : Reply) : Option Mapping := do
  let request ← request? gvk
  (reply.value request >>= mappingIn gvk).toOption

/-! ## What can go wrong in a discovery -/

namespace Discovery

variable {gvk : GroupVersionKind} {error : Error}

/-- Where the server lists the resources of a kind's group and version. -/
def listPath (gvk : GroupVersionKind) : String :=
  (if gvk.group.isEmpty then "/api/" else "/apis/") ++ gvk.apiVersion

/-- The group and the version of a kind make an address: all characters may stand where they do, up
to a hash, and the address is not too long. -/
structure Addressable (gvk : GroupVersionKind) : Prop where
  fits : (listPath gvk).utf8ByteSize ≤ Request.maxAddressLength
  path : ∀ c ∈ (Request.cut (listPath gvk)).toList, Request.isPathChar c
  query : ∀ c ∈ Request.queryText (listPath gvk).toList, Request.isQueryChar c

theorem isSome_request?_iff : (request? gvk).isSome ↔ Addressable gvk := by
  have hfits : Request.addressFits (listPath gvk) none = true ↔
      (listPath gvk).utf8ByteSize ≤ Request.maxAddressLength := decide_eq_true_iff
  change (Request.build? .get (listPath gvk) none none none).isSome ↔ _
  rw [Request.isSome_build?_iff, hfits, Request.behindPath, List.append_nil]
  constructor
  · intro hbuilt
    exact { fits := hbuilt.1, path := hbuilt.2.1, query := hbuilt.2.2 }
  · intro haddress
    exact ⟨haddress.fits, haddress.path, haddress.query⟩

/-- What is asked for is the list of the group and version, up to what ends its path. -/
theorem eq_of_request? {request : Request} (h : request? gvk = some request) :
    request = { method := .get, path := Request.cut (listPath gvk)
                query := Request.ownQuery (listPath gvk), contentType := none, body := none } := by
  have hbuilt := Request.eq_of_build? h
  rwa [Request.behindPath, List.append_nil] at hbuilt

theorem exists_api_of_mappingIn_error {value : Json} (h : mappingIn gvk value = .error error) :
    ∃ cause, error = .api cause := by
  unfold mappingIn at h
  cases hlist : decodedOr (ResourceList.ofJson? value) with
  | error cause =>
    rw [hlist] at h
    cases h
    exact exists_api_of_decodedOr_error hlist
  | ok list =>
    rw [hlist] at h
    dsimp only [bind, Except.bind] at h
    cases hfound : list.mapping? gvk.kind with
    | none =>
      rw [hfound] at h
      exact ⟨_, (Except.error.inj h).symm⟩
    | some found =>
      rw [hfound] at h
      cases h

/-- A discovery that fails is reported as one. -/
theorem exists_wrapError_eq {request : Request} {reply : Reply}
    (h : (reply.value request >>= mappingIn gvk) = .error error) :
    ∃ cause, wrapError gvk error = .discovery gvk.apiVersion gvk.kind cause := by
  have hapi : ∃ cause, error = .api cause := by
    cases hvalue : reply.value request with
    | error cause =>
      rw [hvalue] at h
      cases h
      exact Reply.exists_api_of_value_error hvalue
    | ok value =>
      rw [hvalue] at h
      exact exists_api_of_mappingIn_error h
  obtain ⟨cause, rfl⟩ := hapi
  exact ⟨cause, rfl⟩

end Discovery

namespace MapperCall

def perform : MapperCall → Exchange MapperAnswer
  | mapping gvk => return .mapping (← Session.mapping gvk)
  | resource gvk => return .resource (← Session.mapping gvk).gvr
  | isNamespaced gvk => return .isNamespaced (← Session.mapping gvk).namespaced
  | resourceOf object => do
    return .resource (← Session.mapping (← Exchange.lift object.gvk)).gvr
  | insert gvk found => do
    ExceptT.lift (Session.learn gvk found)
    return .done

/-- The kind that a call looks up. An object that states no kind is refused. -/
def wanted? : MapperCall → Option GroupVersionKind
  | mapping gvk | resource gvk | isNamespaced gvk => some gvk
  | resourceOf object => object.gvk.toOption
  | insert _ _ => none

/-- What a call answers of a mapping. -/
def answer : MapperCall → Mapping → MapperAnswer
  | mapping _, found => .mapping found
  | resource _, found | resourceOf _, found => .resource found.gvr
  | isNamespaced _, found => .isNamespaced found.namespaced
  | insert _ _, _ => .done

def inserted? : MapperCall → Option (GroupVersionKind × Mapping)
  | insert gvk found => some (gvk, found)
  | mapping _ | resource _ | isNamespaced _ | resourceOf _ => none

/-- What a call adds to the knowledge that the clones share. A lookup that sends nothing adds
nothing. -/
def lesson? (call : MapperCall) (before : Session) : Option (GroupVersionKind × Mapping) :=
  match call.wanted? with
  | none => call.inserted?
  | some gvk =>
    if (call.perform.run.run before).2.requests = before.requests then none
    else (Discovery.found? gvk before.next).map (gvk, ·)

/-- The session after some calls. -/
def performAll (calls : List MapperCall) (session : Session) : Session :=
  calls.foldl (fun before call ↦ (call.perform.run.run before).2) session

/-- The lessons of some calls. -/
def lessons : List MapperCall → Session → List (GroupVersionKind × Mapping)
  | [], _ => []
  | call :: rest, session =>
    (call.lesson? session).toList ++ lessons rest (call.perform.run.run session).2

/-! ## One call -/

variable {call : MapperCall} {gvk : GroupVersionKind}

/-- A call that looks up nothing inserts a mapping or is refused; it sends nothing. -/
theorem run_perform_of_unwanted (h : call.wanted? = none) (session : Session) :
    (∃ gvk found, call = .insert gvk found ∧
        call.perform.run.run session = (.ok .done, session.learned gvk found)) ∨
      ∃ object error, call = .resourceOf object ∧ object.gvk = .error error ∧
        call.perform.run.run session = (.error error, session) := by
  cases call with
  | mapping _ | resource _ | isNamespaced _ => cases h
  | resourceOf object =>
    change object.gvk.toOption = none at h
    cases hgvk : object.gvk with
    | ok stated =>
      rw [hgvk] at h
      cases h
    | error error =>
      refine .inr ⟨object, error, rfl, hgvk, ?_⟩
      unfold perform
      rw [Exchange.run_lift_bind, hgvk]
  | insert gvk found => exact .inl ⟨gvk, found, rfl, rfl⟩

/-- A call that looks up a kind answers of the mapping that the session has or obtains. -/
theorem run_perform_of_wanted (h : call.wanted? = some gvk) (session : Session) :
    call.perform.run.run session =
      match (Session.mapping gvk).run.run session with
      | (.ok found, after) => (.ok (call.answer found), after)
      | (.error error, after) => (.error error, after) := by
  have hlookUp (form : Mapping → MapperAnswer) :
      (do return form (← Session.mapping gvk) : Exchange MapperAnswer).run.run session =
        match (Session.mapping gvk).run.run session with
        | (.ok found, after) => (.ok (form found), after)
        | (.error error, after) => (.error error, after) := by
    rw [Exchange.run_bind]
    rcases (Session.mapping gvk).run.run session with ⟨result, after⟩
    cases result <;> rfl
  cases call with
  | mapping _ | resource _ | isNamespaced _ =>
    cases h
    exact hlookUp _
  | resourceOf object =>
    change object.gvk.toOption = some gvk at h
    unfold perform
    rw [Exchange.run_lift_bind]
    cases hgvk : object.gvk with
    | error error =>
      rw [hgvk] at h
      cases h
    | ok stated =>
      rw [hgvk] at h
      cases h
      exact hlookUp _
  | insert other found => cases h

theorem run_perform (h : call.wanted? = some gvk) (session : Session) :
    call.perform.run.run session =
      match session.learned? gvk, Discovery.request? gvk with
      | some found, _ => (.ok (call.answer found), session)
      | none, none => (.error (.discovery gvk.apiVersion gvk.kind .badAddress), session)
      | none, some request =>
        match session.next.value request >>= Discovery.mappingIn gvk with
        | .ok found => (.ok (call.answer found), (session.asked request).learned gvk found)
        | .error error => (.error (Discovery.wrapError gvk error), session.asked request) := by
  rw [run_perform_of_wanted h, Session.run_mapping, Discovery.asks_ask gvk session]
  cases session.learned? gvk with
  | some found => rfl
  | none =>
    cases Discovery.request? gvk with
    | none => rfl
    | some request =>
      dsimp only
      cases session.next.value request >>= Discovery.mappingIn gvk <;> rfl

/-- The requests of a call: the discovery of a kind that is looked up and not known. -/
theorem requests_perform (h : call.wanted? = some gvk) (before : Session) :
    (call.perform.run.run before).2.requests =
      before.requests ++
        if before.learned? gvk = none then (Discovery.request? gvk).toList else [] := by
  rw [run_perform h]
  cases before.learned? gvk with
  | some found => exact (List.append_nil _).symm
  | none =>
    cases Discovery.request? gvk with
    | none => exact (List.append_nil _).symm
    | some request =>
      dsimp only
      cases before.next.value request >>= Discovery.mappingIn gvk with
      | error error => exact before.requests_asked request
      | ok found => exact before.requests_asked request

/-- A lookup teaches what the server's next reply says of a kind that is not known. -/
theorem lesson?_of_wanted (h : call.wanted? = some gvk) (before : Session) :
    call.lesson? before =
      if before.learned? gvk = none then (Discovery.found? gvk before.next).map (gvk, ·)
      else none := by
  unfold lesson?
  rw [h]
  dsimp only
  rw [requests_perform h]
  by_cases hknown : before.learned? gvk = none
  · rw [if_pos hknown, if_pos hknown]
    cases hrequest : Discovery.request? gvk with
    | some request =>
      have hsent : before.requests ++ [request] ≠ before.requests := by simp
      exact if_neg hsent
    | none =>
      unfold Discovery.found?
      rw [hrequest]
      exact if_pos (List.append_nil _)
  · rw [if_neg hknown, if_neg hknown]
    exact if_pos (List.append_nil _)

/-- After a call a kind is known from its lesson, or else as it was before. -/
theorem learned?_perform (call : MapperCall) (before : Session) (gvk : GroupVersionKind) :
    (call.perform.run.run before).2.learned? gvk =
      ((call.lesson? before).toList ++ before.mappings).lookup gvk := by
  have hlearned (other : GroupVersionKind) (found : Mapping) :
      (before.learned other found).learned? gvk =
        ((other, found) :: before.mappings).lookup gvk := by
    rw [Session.learned?_learned, Lookup.lookup_cons]
    rfl
  cases hwanted : call.wanted? with
  | none =>
    unfold lesson?
    rw [hwanted]
    rcases run_perform_of_unwanted hwanted before with
      ⟨other, found, rfl, hrun⟩ | ⟨object, error, rfl, -, hrun⟩
    · rw [hrun]
      exact hlearned other found
    · rw [hrun]
      rfl
  | some wanted =>
    rw [run_perform hwanted, lesson?_of_wanted hwanted]
    cases before.learned? wanted with
    | some found => rfl
    | none =>
      rw [if_pos rfl]
      unfold Discovery.found?
      cases Discovery.request? wanted with
      | none => rfl
      | some request =>
        dsimp only [Option.bind_eq_bind, Option.bind_some]
        cases before.next.value request >>= Discovery.mappingIn wanted with
        | error error => rfl
        | ok found => exact hlearned wanted found

theorem requests_perform_ne_iff (call : MapperCall) (before : Session) :
    (call.perform.run.run before).2.requests ≠ before.requests ↔
      ∃ gvk, call.wanted? = some gvk ∧ before.learned? gvk = none ∧
        (Discovery.request? gvk).isSome := by
  cases hwanted : call.wanted? with
  | none =>
    refine iff_of_false (not_not_intro ?_) fun ⟨_, h, _⟩ ↦ nomatch h
    rcases run_perform_of_unwanted hwanted before with ⟨_, _, rfl, hrun⟩ | ⟨_, _, rfl, -, hrun⟩
    · rw [hrun]
      rfl
    · rw [hrun]
  | some gvk =>
    rw [requests_perform hwanted, Ne, List.append_right_eq_self]
    by_cases hknown : before.learned? gvk = none
    · rw [if_pos hknown]
      cases hrequest : Discovery.request? gvk with
      | none => simp [hrequest]
      | some request => simp [hknown, hrequest]
    · simp [hknown]

theorem run_perform_known (h : call.wanted? = some gvk) {before : Session} {found : Mapping}
    (hknown : before.learned? gvk = some found) :
    call.perform.run.run before = (.ok (call.answer found), before) := by
  rw [run_perform h, hknown]

/-- A lookup of a kind that is not known obtains what the server's next reply gives, or fails and
learns nothing. -/
theorem perform_unknown (h : call.wanted? = some gvk) {before : Session}
    (hunknown : before.learned? gvk = none) :
    match Discovery.found? gvk before.next with
    | some found => (call.perform.run.run before).1 = .ok (call.answer found)
    | none =>
      (∃ cause, (call.perform.run.run before).1 =
          .error (.discovery gvk.apiVersion gvk.kind cause)) ∧
        (call.perform.run.run before).2.mappings = before.mappings := by
  rw [run_perform h, hunknown]
  unfold Discovery.found?
  cases Discovery.request? gvk with
  | none => exact ⟨⟨_, rfl⟩, rfl⟩
  | some request =>
    dsimp only [Option.bind_eq_bind, Option.bind_some]
    cases hmeaning : before.next.value request >>= Discovery.mappingIn gvk with
    | ok found => rfl
    | error error =>
      obtain ⟨cause, hcause⟩ := Discovery.exists_wrapError_eq hmeaning
      exact ⟨⟨cause, congrArg Except.error hcause⟩, rfl⟩

/-! ## A history of calls -/

/-- After some calls a kind is known from the last lesson on it, or else as it was before. -/
theorem learned?_performAll (calls : List MapperCall) (before : Session) (gvk : GroupVersionKind) :
    (performAll calls before).learned? gvk =
      ((lessons calls before).reverse ++ before.mappings).lookup gvk := by
  induction calls generalizing before with
  | nil => rfl
  | cons call rest ih =>
    have hone : (call.lesson? before).toList.reverse = (call.lesson? before).toList := by
      cases call.lesson? before <;> rfl
    have hcall := learned?_perform call before gvk
    unfold Session.learned? at hcall
    calc
      (performAll rest (call.perform.run.run before).2).learned? gvk
      _ = ((lessons rest (call.perform.run.run before).2).reverse ++
            (call.perform.run.run before).2.mappings).lookup gvk := ih _
      _ = ((lessons (call :: rest) before).reverse ++ before.mappings).lookup gvk := by
        rw [lessons, List.reverse_append, hone, List.append_assoc, List.lookup_append, hcall,
          ← List.lookup_append]

/-- Only kinds with a schema are known before the first call. -/
theorem latest_eq_none_iff (lessons : List (GroupVersionKind × Mapping))
    (gvk : GroupVersionKind) :
    (lessons.reverse ++ Mapping.builtin).lookup gvk = none ↔
      (∀ kind : Kind, gvk ≠ kind.gvk) ∧ ∀ found, (gvk, found) ∉ lessons := by
  rw [List.lookup_eq_none_iff]
  constructor
  · intro h
    have hne (entry) (hmem : entry ∈ lessons.reverse ++ Mapping.builtin) : gvk ≠ entry.1 :=
      bne_iff_ne.1 (h entry hmem)
    refine ⟨fun kind ↦ ?_, fun found hmem ↦ ?_⟩
    · exact hne (Mapping.ofKind kind) (List.mem_append_right _ (List.mem_map_of_mem kind.mem_all))
    · exact hne (gvk, found) (List.mem_append_left _ (List.mem_reverse.2 hmem)) rfl
  · rintro ⟨hkinds, hlessons⟩ entry hmem
    refine bne_iff_ne.2 ?_
    rcases List.mem_append.1 hmem with hmem | hmem
    · rintro rfl
      exact hlessons entry.2 (List.mem_reverse.1 hmem)
    · obtain ⟨kind, -, rfl⟩ := List.mem_map.1 hmem
      exact hkinds kind

/-- A call sends a request exactly when it looks up a kind that has no schema, that no earlier call
obtained or inserted, and that can be asked for at all. What was obtained or inserted last is
answered, and nothing changes. Else the server is asked: the call obtains what the reply gives, or
it fails as a discovery of the kind, learns nothing, and the next lookup of the kind asks again. -/
theorem discovers_once (script : List Reply) (beyond : Reply) (earlier : List MapperCall)
    (call : MapperCall) :
    let start := Session.new script beyond
    let taught := lessons earlier start
    let before := performAll earlier start
    let outcome := call.perform.run.run before
    (outcome.2.requests ≠ before.requests ↔
        ∃ gvk, call.wanted? = some gvk ∧ (∀ kind : Kind, gvk ≠ kind.gvk) ∧
          (∀ found, (gvk, found) ∉ taught) ∧ Discovery.Addressable gvk) ∧
      ∀ gvk, call.wanted? = some gvk →
        match (taught.reverse ++ Mapping.builtin).lookup gvk with
        | some found => outcome = (.ok (call.answer found), before)
        | none =>
          outcome.2.requests = before.requests ++ (Discovery.request? gvk).toList ∧
            (∀ request, Discovery.request? gvk = some request → request =
              { method := .get, path := Request.cut (Discovery.listPath gvk)
                query := Request.ownQuery (Discovery.listPath gvk)
                contentType := none, body := none }) ∧
            match Discovery.found? gvk before.next with
            | some found =>
              outcome.1 = .ok (call.answer found) ∧ call.lesson? before = some (gvk, found)
            | none =>
              (∃ cause, outcome.1 = .error (.discovery gvk.apiVersion gvk.kind cause)) ∧
                outcome.2.mappings = before.mappings ∧ call.lesson? before = none ∧
                ∀ again : MapperCall, again.wanted? = some gvk →
                  (again.perform.run.run outcome.2).2.requests =
                    outcome.2.requests ++ (Discovery.request? gvk).toList := by
  intro start taught before outcome
  have hknown (gvk : GroupVersionKind) :
      before.learned? gvk = (taught.reverse ++ Mapping.builtin).lookup gvk :=
    learned?_performAll earlier start gvk
  refine ⟨?_, fun gvk hwanted ↦ ?_⟩
  · refine (requests_perform_ne_iff call before).trans (exists_congr fun gvk ↦ ?_)
    rw [hknown gvk, latest_eq_none_iff, and_assoc, Discovery.isSome_request?_iff]
  · rw [← hknown gvk]
    cases hlatest : before.learned? gvk with
    | some found => exact run_perform_known hwanted hlatest
    | none =>
      have hasked {again : MapperCall} (h : again.wanted? = some gvk) {session : Session}
          (hunknown : session.learned? gvk = none) :
          (again.perform.run.run session).2.requests =
            session.requests ++ (Discovery.request? gvk).toList := by
        rw [requests_perform h, if_pos hunknown]
      have hlesson := lesson?_of_wanted hwanted before
      rw [if_pos hlatest] at hlesson
      refine ⟨hasked hwanted hlatest, fun _ ↦ Discovery.eq_of_request?, ?_⟩
      have hresult := perform_unknown hwanted hlatest
      cases hfound : Discovery.found? gvk before.next with
      | some found =>
        rw [hfound] at hresult hlesson
        exact ⟨hresult, hlesson⟩
      | none =>
        rw [hfound] at hresult hlesson
        have hstill : outcome.2.learned? gvk = none := by
          unfold Session.learned?
          rw [hresult.2]
          exact hlatest
        exact ⟨hresult.1, hresult.2, hlesson, fun again h ↦ hasked h hstill⟩

def widget : GroupVersionKind := ⟨"example.com", "v1", "Widget"⟩

/-- The server does not know the kind and is asked again, until a mapping is inserted. -/
theorem discovers_once_widget :
    let found : Mapping := ⟨"example.com", "v1", "example.com/v1", "Widget", "widgets", true⟩
    let start := Session.new [] (.ofFailure 404 "NotFound")
    let earlier := [mapping widget, isNamespaced widget, insert widget found]
    let before := performAll earlier start
    before.requests.length = 2 ∧ lessons earlier start = [(widget, found)] ∧
      (resource widget).perform.run.run before =
        (.ok (.resource ⟨"example.com", "v1", "widgets"⟩), before) := by
  intro found start earlier before
  have hrequests : before.requests.length = 2 := by decide +kernel
  have hlessons : lessons earlier start = [(widget, found)] := by decide +kernel
  have hlatest :
      ((lessons earlier start).reverse ++ Mapping.builtin).lookup widget = some found := by
    rw [hlessons]
    rfl
  have hanswer :=
    (discovers_once [] (.ofFailure 404 "NotFound") earlier (resource widget)).2 widget rfl
  rw [hlatest] at hanswer
  exact ⟨hrequests, hlessons, hanswer⟩

/-- A group with a blank is part of no address, so the server is not asked. A hash in a group ends
the path early, so the server is asked for something else. -/
theorem exists_unknown_undiscovered :
    let blank : GroupVersionKind := ⟨"a b", "v1", "Widget"⟩
    let hash : GroupVersionKind := ⟨"a#b", "v1", "Widget"⟩
    let start := Session.new [] .noMore
    (∀ kind : Kind, blank ≠ kind.gvk ∧ hash ≠ kind.gvk) ∧
      ((mapping blank).perform.run.run start).1 =
        .error (.discovery "a b/v1" "Widget" .badAddress) ∧
      ((mapping blank).perform.run.run start).2.requests = [] ∧
      ((mapping hash).perform.run.run start).2.requests =
        [⟨.get, "/apis/a", [], none, none⟩] := by
  intro blank hash start
  refine ⟨fun kind ↦ ?_, ?_, ?_, ?_⟩
  · cases kind <;> decide
  · decide +kernel
  · decide +kernel
  · decide +kernel

end MapperCall

end ClusterObjects
