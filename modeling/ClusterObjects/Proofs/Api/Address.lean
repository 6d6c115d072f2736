import ClusterObjects.Api.Request
import ClusterObjects.Proofs.Text.Query
import Mathlib.Data.List.TakeWhile

/-!
# Addresses that end early

A path that holds a question mark or a hash ends before its own end, and what follows it is read as
a query or not at all. Behind a question mark the query that was meant for the request still
arrives; behind a hash there remains only the query that the path spells by itself.
-/

namespace ClusterObjects.Request

/-- A path that nothing ends early. -/
def IsWhole (path : String) : Prop := '?' ∉ path.toList ∧ '#' ∉ path.toList

instance (path : String) : Decidable (IsWhole path) := inferInstanceAs (Decidable (_ ∧ _))

theorem isWhole_append {first second : String} :
    IsWhole (first ++ second) ↔ IsWhole first ∧ IsWhole second := by
  unfold IsWhole
  simp only [String.toList_append, List.mem_append, not_or]
  exact and_and_and_comm

/-- Whether a character stays in the path of an address. -/
def staysInPath (c : Char) : Bool := c != '?' && c != '#'

/-- The query that a text spells behind its path, up to a hash. -/
def queryText (address : List Char) : List Char :=
  match address.dropWhile staysInPath with
  | '?' :: rest => rest.takeWhile (· != '#')
  | _ => []

/-- The pairs that a path spells by itself. -/
def ownQuery (path : String) : List (String × String) := Text.Query.decode (queryText path.toList)

variable {method : Method} {path : String} {query? : Option (List (String × String))}
  {contentType : Option String} {body : Option Json} {request : Request}

theorem ofAddress?_eq (method : Method) (address : List Char) (contentType : Option String)
    (body : Option Json) : ofAddress? method address contentType body =
      if (address.takeWhile staysInPath).all isPathChar && (queryText address).all isQueryChar then
        some { method, path := String.ofList (address.takeWhile staysInPath)
               query := Text.Query.decode (queryText address), contentType, body }
      else none := by
  have hdrop : address.drop (address.takeWhile staysInPath).length =
      address.dropWhile staysInPath := by
    have hsplit := List.takeWhile_append_dropWhile (p := staysInPath) (l := address)
    rw [← congrArg (List.drop _) hsplit, List.drop_left]
  unfold queryText
  rw [← hdrop]
  rfl

theorem isWhole_iff : IsWhole path ↔ path.toList.any (fun c ↦ c == '?' || c == '#') = false := by
  unfold IsWhole
  rw [List.any_eq_false]
  constructor
  · rintro ⟨hquestion, hhash⟩ c hc hends
    rcases (Bool.or_eq_true _ _).mp hends with h | h
    · exact hquestion (beq_iff_eq.1 h ▸ hc)
    · exact hhash (beq_iff_eq.1 h ▸ hc)
  · intro h
    exact ⟨fun hc ↦ h '?' hc rfl, fun hc ↦ h '#' hc rfl⟩

theorem isWhole_iff_staysInPath : IsWhole path ↔ ∀ c ∈ path.toList, staysInPath c = true := by
  constructor
  · intro hpath c hc
    simp only [staysInPath, Bool.and_eq_true, bne_iff_ne]
    exact ⟨fun heq ↦ hpath.1 (heq ▸ hc), fun heq ↦ hpath.2 (heq ▸ hc)⟩
  · intro hstays
    exact ⟨fun hc ↦ absurd (hstays _ hc) (by decide), fun hc ↦ absurd (hstays _ hc) (by decide)⟩

/-! ## What is behind a path -/

theorem isQueryChar_of_mem_encode (pairs : List (String × String)) :
    ∀ c ∈ Text.Query.encode pairs, isQueryChar c := by
  have hbyte (b : UInt8) : ∀ c ∈ Text.Query.encodeByte b, isQueryChar c := by
    have hall : (List.range 256).all (fun n ↦
        (Text.Query.encodeByte (UInt8.ofNat n)).all isQueryChar) = true := by
      decide +kernel
    have hb := List.all_eq_true.1 hall b.toNat (List.mem_range.2 b.toNat_lt)
    rw [UInt8.ofNat_toNat] at hb
    exact List.all_eq_true.1 hb
  have htext (s : String) : ∀ c ∈ Text.Query.encodeText s, isQueryChar c := by
    intro c hc
    obtain ⟨b, -, hb⟩ := List.mem_flatMap.1 hc
    exact hbyte b c hb
  intro c hc
  obtain ⟨pair, -, hpair⟩ := List.mem_flatMap.1 hc
  rcases List.mem_cons.1 hpair with rfl | hpair
  · decide
  · rcases List.mem_append.1 hpair with hkey | hvalue
    · exact htext _ c hkey
    · rcases List.mem_cons.1 hvalue with rfl | hvalue
      · decide
      · exact htext _ c hvalue

theorem hash_notMem_behindPath (query? : Option (List (String × String))) :
    '#' ∉ behindPath query? := by
  cases query? with
  | none => exact List.not_mem_nil
  | some pairs =>
    intro h
    rcases List.mem_cons.1 h with h | h
    · cases h
    · exact Text.Query.hash_notMem_encode pairs h

theorem takeWhile_behindPath (query? : Option (List (String × String))) :
    (behindPath query?).takeWhile staysInPath = [] := by
  cases query? <;> rfl

theorem queryText_behindPath (query? : Option (List (String × String))) :
    queryText (behindPath query?) = Text.Query.encode (query?.getD []) := by
  cases query? with
  | none => rfl
  | some pairs =>
    refine List.takeWhile_eq_self_iff.2 fun c hc ↦ bne_iff_ne.2 ?_
    rintro rfl
    exact Text.Query.hash_notMem_encode pairs hc

theorem decode_encode (pairs : List (String × String)) :
    Text.Query.decode (Text.Query.encode pairs) = pairs :=
  Text.Query.decode_append_encode [] pairs

theorem queryText_append_of_isWhole (hpath : IsWhole path) (back : List Char) :
    queryText (path.toList ++ back) = queryText back := by
  unfold queryText
  rw [List.dropWhile_append_of_pos (isWhole_iff_staysInPath.1 hpath)]

/-- What ends early keeps the query that it spells by itself up to its hash. -/
theorem queryText_append_of_hash (hhash : '#' ∈ path.toList) (back : List Char) :
    queryText (path.toList ++ back) = queryText path.toList := by
  have hends : path.toList.dropWhile staysInPath ≠ [] := fun hnil ↦
    absurd (List.dropWhile_eq_nil_iff.1 hnil _ hhash) (by decide)
  have hmem : '#' ∈ path.toList.dropWhile staysInPath := by
    rw [← List.takeWhile_append_dropWhile (p := staysInPath) (l := path.toList)] at hhash
    rcases List.mem_append.1 hhash with h | h
    · exact absurd (List.mem_takeWhile_imp h) (by decide)
    · exact h
  unfold queryText
  rw [List.dropWhile_append, if_neg (by simpa using hends)]
  cases hdrop : path.toList.dropWhile staysInPath with
  | nil => exact absurd hdrop hends
  | cons c rest =>
    by_cases hc : c = '?'
    · subst hc
      have hrest : '#' ∈ rest := by simpa [hdrop] using hmem
      obtain ⟨own, behind, rfl, hown⟩ := List.eq_append_cons_of_mem hrest
      have hkept : ∀ c ∈ own, (c != '#') = true := fun c hc ↦ bne_iff_ne.2 fun h ↦ hown (h ▸ hc)
      simp [List.takeWhile_append_of_pos hkept]
    · simp [hc]

/-- Without a hash all that is behind a path belongs to the query. -/
theorem queryText_append_of_no_hash (hhash : '#' ∉ path.toList) (hquestion : '?' ∈ path.toList)
    {back : List Char} (hback : '#' ∉ back) :
    ∃ own, queryText (path.toList ++ back) = own ++ back := by
  obtain ⟨front, own, hpath, hfront⟩ := List.eq_append_cons_of_mem hquestion
  rw [hpath] at hhash ⊢
  have hstays : ∀ c ∈ front, staysInPath c = true := by
    intro c hc
    simp only [staysInPath, Bool.and_eq_true, bne_iff_ne]
    exact ⟨fun h ↦ hfront (h ▸ hc), fun h ↦ hhash (List.mem_append_left _ (h ▸ hc))⟩
  have hkept : ∀ c ∈ own ++ back, (c != '#') = true := by
    intro c hc
    refine bne_iff_ne.2 ?_
    rintro rfl
    rcases List.mem_append.1 hc with h | h
    · exact hhash (List.mem_append_right _ (List.mem_cons_of_mem _ h))
    · exact hback h
  refine ⟨own, ?_⟩
  unfold queryText
  rw [List.append_assoc, List.dropWhile_append_of_pos hstays]
  exact List.takeWhile_eq_self_iff.2 hkept

/-! ## Requests that are built -/

/-- A request is read from the whole text of its address. -/
theorem build?_eq_ofAddress? (method : Method) (path : String)
    (query? : Option (List (String × String))) (contentType : Option String) (body : Option Json) :
    build? method path query? contentType body =
      if addressFits path query? then
        ofAddress? method (path.toList ++ behindPath query?) contentType body
      else none := by
  unfold build?
  cases addressFits path query? with
  | false => rfl
  | true =>
    simp only [Bool.not_true, Bool.false_eq_true, if_false, if_true]
    split
    · rfl
    · rename_i hends
      have hpath : IsWhole path := isWhole_iff.2 (Bool.eq_false_iff.2 hends)
      have hquery : (Text.Query.encode (query?.getD [])).all isQueryChar = true :=
        List.all_eq_true.2 (isQueryChar_of_mem_encode _)
      rw [ofAddress?_eq, queryText_append_of_isWhole hpath, queryText_behindPath, hquery,
        List.takeWhile_append_of_pos (isWhole_iff_staysInPath.1 hpath), takeWhile_behindPath,
        List.append_nil, Bool.and_true, decode_encode, String.ofList_toList]

/-- A path up to its first question mark or hash. -/
def cut (path : String) : String := String.ofList (path.toList.takeWhile staysInPath)

theorem cut_append_of_isWhole {front : String} (hfront : IsWhole front) (back : String) :
    cut (front ++ back) = front ++ cut back := by
  unfold cut
  rw [String.toList_append, List.takeWhile_append_of_pos (isWhole_iff_staysInPath.1 hfront),
    String.ofList_append, String.ofList_toList]

theorem cut_of_isWhole (hpath : IsWhole path) : cut path = path := by
  unfold cut
  rw [List.takeWhile_eq_self_iff.2 (isWhole_iff_staysInPath.1 hpath), String.ofList_toList]

theorem takeWhile_address (path : String) (query? : Option (List (String × String))) :
    String.ofList ((path.toList ++ behindPath query?).takeWhile staysInPath) = cut path := by
  unfold cut
  rw [List.takeWhile_append, takeWhile_behindPath]
  split
  · rename_i hlength
    rw [List.append_nil, (List.takeWhile_prefix _).eq_of_length hlength]
  · rfl

/-- What is built is fixed by the text of the address. -/
theorem eq_of_build? (h : build? method path query? contentType body = some request) :
    request = { method, path := cut path
                query := Text.Query.decode (queryText (path.toList ++ behindPath query?))
                contentType, body } := by
  rw [build?_eq_ofAddress?] at h
  obtain ⟨-, h⟩ := (Option.ite_none_right_eq_some ..).1 h
  rw [ofAddress?_eq, takeWhile_address] at h
  obtain ⟨-, h⟩ := (Option.ite_none_right_eq_some ..).1 h
  exact (Option.some.inj h).symm

theorem build?_eq (h : build? method path query? contentType body = some request) :
    request.method = method ∧ request.contentType = contentType ∧ request.body = body := by
  rw [eq_of_build? h]
  exact ⟨rfl, rfl, rfl⟩

/-- Every request goes to the path that it is built for, as far as that is whole. -/
theorem path_of_build? (h : build? method path query? contentType body = some request) :
    request.path = cut path := by
  rw [eq_of_build? h]

/-- A request to a whole path is what it was meant to be. -/
theorem build?_of_isWhole (hpath : IsWhole path)
    (h : build? method path query? contentType body = some request) :
    request = { method, path, query := query?.getD [], contentType, body } := by
  rw [eq_of_build? h, cut_of_isWhole hpath, queryText_append_of_isWhole hpath,
    queryText_behindPath, decode_encode]

/-- The path of the request starts with the given text. -/
def Under (front : String) (request : Request) : Prop := ∃ rest, request.path = front ++ rest

/-- What is whole at the front of a path stays there. -/
theorem under_of_build? {front back : String} (hfront : IsWhole front)
    (h : build? method (front ++ back) query? contentType body = some request) :
    request.Under front :=
  ⟨cut back, (path_of_build? h).trans (cut_append_of_isWhole hfront back)⟩

/-- A hash ends the query before the pairs that a request is given. -/
theorem query_of_hash (hhash : '#' ∈ path.toList)
    (h : build? method path query? contentType body = some request) :
    request.query = ownQuery path := by
  rw [eq_of_build? h, queryText_append_of_hash hhash]
  rfl

/-- Without a hash all pairs that a request is given arrive, behind those that the path spells. -/
theorem query_of_no_hash (hhash : '#' ∉ path.toList) {pairs : List (String × String)}
    (h : build? method path (some pairs) contentType body = some request) :
    ∃ own, request.query = own ++ pairs := by
  by_cases hquestion : '?' ∈ path.toList
  · obtain ⟨own, hown⟩ := queryText_append_of_no_hash hhash hquestion
      (hash_notMem_behindPath (some pairs))
    have hsplit : own ++ behindPath (some pairs) = own ++ ['?'] ++ Text.Query.encode pairs := by
      simp [behindPath]
    refine ⟨Text.Query.decode (own ++ ['?']), ?_⟩
    rw [eq_of_build? h, hown, hsplit, Text.Query.decode_append_encode]
  · exact ⟨[], by rw [build?_of_isWhole ⟨hquestion, hhash⟩ h]; rfl⟩

/-- A pair that a request is given arrives unless a hash ends the path, and then only when the path
spells the pair itself. -/
theorem mem_query_iff {pair : String × String} {pairs : List (String × String)}
    (hpair : pair ∈ pairs)
    (h : build? method path (some pairs) contentType body = some request) :
    pair ∈ request.query ↔ '#' ∉ path.toList ∨ pair ∈ ownQuery path := by
  by_cases hhash : '#' ∈ path.toList
  · rw [query_of_hash hhash h]
    simp [hhash]
  · obtain ⟨own, hown⟩ := query_of_no_hash hhash h
    rw [hown]
    simp [hhash, hpair]

/-- A request can be built when its address has no character that may not stand there and is not
too long. -/
theorem isSome_build?_iff :
    (build? method path query? contentType body).isSome ↔
      addressFits path query? ∧ (∀ c ∈ (cut path).toList, isPathChar c) ∧
        ∀ c ∈ queryText (path.toList ++ behindPath query?), isQueryChar c := by
  rw [build?_eq_ofAddress?, ofAddress?_eq]
  have hcut : (path.toList ++ behindPath query?).takeWhile staysInPath = (cut path).toList := by
    rw [← takeWhile_address path query?, String.toList_ofList]
  rw [hcut]
  cases addressFits path query? <;> simp [List.all_eq_true]

end ClusterObjects.Request
