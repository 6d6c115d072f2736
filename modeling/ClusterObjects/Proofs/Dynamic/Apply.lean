import ClusterObjects.Proofs.Dynamic.Write

/-!
# Applying an object of any kind

An application is an attempt to create the object and, if that fails because of a conflict, an
attempt to update it. The session tells in the end what was sent: the object is posted unless the
lookup of its kind was refused, and it is put in place if the last request of the first attempt was
refused. That request is the post, or else the lookup: a conflict there is taken for the object's
own, and the object is updated although nothing was said of it.
-/

namespace ClusterObjects.DynamicHandler

variable {handler : DynamicHandler} {object : Object} {before after : Session}

/-- The requests of an application. Each of its two attempts looks the kind up and writes, as far as
it comes; the second one is made when the first was refused because of a conflict. -/
structure AppliedInTurn (handler : DynamicHandler) (object : Object) (before after : Session)
    (lookups : List Request) (creation? : Option Request) (again : List Request)
    (update? : Option Request) : Prop where
  requests : after.requests =
    before.requests ++ (lookups ++ creation?.toList) ++ (again ++ update?.toList)
  reads : ∀ request ∈ lookups ++ again, request.Reads
  retried : again ≠ [] → before.Refuses (lookups ++ creation?.toList)
  creation : ∀ post, creation? = some post ↔
    handler.creationAt? after object = some post ∧ ¬ before.Refuses lookups
  update : ∀ put, update? = some put ↔
    handler.replacementAt? after object = some put ∧
      before.Refuses (lookups ++ creation?.toList)

theorem run_applyObject (handler : DynamicHandler) (object : Object) (before : Session) :
    (handler.applyObject object).run.run before =
      match (handler.createObject object).run.run before with
      | (.ok created, after) => (.ok created, after)
      | (.error error, after) =>
        if error.isAlreadyExists then (handler.updateObject object).run.run after
        else (.error error, after) := by
  unfold applyObject
  rw [Exchange.run_tryCatch]
  rcases (handler.createObject object).run.run before with ⟨answer, after⟩
  cases answer with
  | ok created => rfl
  | error error =>
    dsimp only
    cases error.isAlreadyExists <;> rfl

theorem creationAt?_of_remembers {known later : Session} {post : Request}
    (h : handler.creationAt? known object = some post) (hremembers : known.Remembers later) :
    handler.creationAt? later object = some post := by
  obtain ⟨endpoint, hplace, hpost⟩ := Option.bind_eq_some_iff.1 h
  exact Option.bind_eq_some_iff.2 ⟨endpoint, place?_of_remembers hplace hremembers, hpost⟩

variable {answer other : Except Error Object} {middle : Session} {lookups again : List Request}
  {creation? update? : Option Request}

/-- An attempt to create that meets no conflict is all there is. -/
theorem AppliedInTurn.of_attempt
    (h : handler.Attempt object (handler.creation? · object) before answer after lookups creation?)
    (hanswer : saysExists answer = false) :
    handler.AppliedInTurn object before after lookups creation? [] none := by
  have hanswered : ¬ before.Refuses (lookups ++ creation?.toList) := by
    rw [← h.refused, hanswer]
    simp
  refine ⟨?_, ?_, fun hagain ↦ absurd rfl hagain, fun post ↦ ?_, fun put ↦ ?_⟩
  · simpa using h.requests
  · simpa using h.reads
  · rw [h.write]
    refine (and_iff_left_of_imp fun hpost ↦ h.answered ?_).symm
    rw [h.write]
    exact fun hnone ↦ nomatch hnone.symm.trans hpost
  · exact iff_of_false nofun fun hput ↦ hanswered hput.2

/-- After a conflict there are two attempts. Nothing is posted where the lookup was refused,
although the second attempt may find the place to post to. -/
theorem AppliedInTurn.of_attempts
    (h : handler.Attempt object (handler.creation? · object) before answer middle lookups creation?)
    (hanswer : saysExists answer = true)
    (hnext : handler.Attempt object (handler.replacement? · object) middle other after again
      update?) :
    handler.AppliedInTurn object before after lookups creation? again update? := by
  have hrefused := h.refused.1 hanswer
  refine ⟨?_, ?_, fun _ ↦ hrefused, fun post ↦ ⟨fun hpost ↦ ?_, ?_⟩, fun put ↦ ?_⟩
  · rw [hnext.requests, h.requests]
  · exact List.forall_mem_append.2 ⟨h.reads, hnext.reads⟩
  · have hknown : handler.creationAt? middle object = some post := h.write.symm.trans hpost
    exact ⟨creationAt?_of_remembers hknown hnext.remembers, h.answered (by simp [hpost])⟩
  · rintro ⟨hpost, hanswered⟩
    cases hcreation : creation? with
    | none =>
      rw [hcreation, Option.toList_none, List.append_nil] at hrefused
      exact absurd hrefused hanswered
    | some first =>
      have hfirst : handler.creationAt? middle object = some first := h.write.symm.trans hcreation
      rw [← hpost, creationAt?_of_remembers hfirst hnext.remembers]
  · rw [hnext.write]
    exact (and_iff_left hrefused).symm

theorem exists_appliedInTurn (handler : DynamicHandler) (object : Object) (before : Session) :
    ∃ lookups creation? again update?, handler.AppliedInTurn object before
      ((handler.applyObject object).run.run before).2 lookups creation? again update? := by
  obtain ⟨lookups, creation?, hcreate⟩ := handler.exists_attempt_createObject object before
  rw [run_applyObject]
  rcases hrun : (handler.createObject object).run.run before with ⟨answer, middle⟩
  rw [hrun] at hcreate
  cases answer with
  | ok created => exact ⟨lookups, creation?, [], none, .of_attempt hcreate rfl⟩
  | error error =>
    dsimp only
    by_cases hexists : error.isAlreadyExists = true
    · obtain ⟨again, update?, hupdate⟩ := handler.exists_attempt_updateObject object middle
      rw [if_pos hexists]
      exact ⟨lookups, creation?, again, update?, .of_attempts hcreate hexists hupdate⟩
    · rw [if_neg hexists]
      exact ⟨lookups, creation?, [], none,
        .of_attempt hcreate (Bool.eq_false_iff.2 hexists)⟩

/-- An application posts the object at most once and puts it in place at most once, with the same
body and in the same collection. It is put in place only when the post was refused because of a
conflict, or when the lookup of its kind was and nothing was posted. -/
theorem updates_after_conflict (handler : DynamicHandler) (input : Input) (before : Session) :
    let outcome := (handler.apply input).run.run before
    match DynamicHandler.object input with
    | .error error => outcome = (.error error, before)
    | .ok object =>
      (∃ lookups creation? again update?,
        handler.AppliedInTurn object before outcome.2 lookups creation? again update?) ∧
      (∀ post, handler.creationAt? outcome.2 object = some post →
        ∃ collection, handler.collection? outcome.2 object = some collection ∧
          Writes object .post collection post) ∧
      ∀ put, handler.replacementAt? outcome.2 object = some put →
        ∃ collection name, handler.collection? outcome.2 object = some collection ∧
          object.ownName? = some name ∧ Writes object .put (collection ++ "/" ++ name) put := by
  intro outcome
  have hrun : outcome = _ :=
    Exchange.run_lift_bind (DynamicHandler.object input) handler.applyObject before
  rw [hrun]
  cases DynamicHandler.object input with
  | error error => rfl
  | ok object =>
    refine ⟨handler.exists_appliedInTurn object before, fun post ↦ writes_of_creationAt?,
      fun put hput ↦ ?_⟩
    obtain ⟨path, hpath, hwrites⟩ := writes_of_replacementAt? hput
    obtain ⟨collection, name, hcollection, hname, rfl⟩ := objectPath?_eq_some_iff.1 hpath
    exact ⟨collection, name, hcollection, hname, hwrites⟩

/-! ## An update without a creation -/

/-- An object of a kind without a schema. -/
def widget : Json.Members := [("apiVersion", .str "example.com/v1"), ("kind", .str "Widget"),
  ("metadata", .obj [("name", .str "w1")])]

/-- A list with the resource of the kind. -/
def widgets : Json := Json.object [("groupVersion", .str "example.com/v1"),
  ("resources", .arr [Json.object [("kind", .str "Widget"), ("name", .str "widgets"),
    ("namespaced", .bool true), ("singularName", .str "widget"), ("verbs", .arr [])]])]

/-- The server refuses to list resources, then lists them, and sends back what comes next. -/
def refusing : Session := Session.new
  [.ofFailure 409 "Conflict", .ofValue 200 widgets, .answer 200 .echo false] .noMore

/-- The lookup of the kind is refused because of a conflict, and the next one is not: the object is
put in place, and never posted. -/
theorem exists_update_without_creation :
    let outcome := ((new "apps").apply (.map widget)).run.run refusing
    outcome.2.requests.map (fun request ↦ (request.method, request.path)) =
      [(.get, "/apis/example.com/v1"), (.get, "/apis/example.com/v1"),
        (.put, "/apis/example.com/v1/namespaces/apps/widgets/w1")] := by
  simp only [apply, applyObject, createObject, updateObject, endpointOf, Session.mapping,
    Discovery.ask, Discovery.ResourceList.mapping?, String.contains_char_eq]
  decide +kernel

end ClusterObjects.DynamicHandler
