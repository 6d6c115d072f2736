import ClusterObjects.Proofs.Json.Members
import ClusterObjects.Proofs.Schema.Timestamp
import ClusterObjects.Schema.Basic

/-!
# Reading a value twice

A value that a schema has read is in the schema's form: reading it again gives it back. For a schema
of fields this needs the names of the fields to differ, since the members that are read last stand
in the place of those with the same name.
-/

namespace ClusterObjects

open Json (Members)

namespace Schema

/-! ## Names of fields -/

mutual

/-- The fields of every structure in the schema have names of their own. -/
def namesApart : Schema → Bool
  | list item => namesApart item
  | map value => namesApart value
  | struct fields => fieldsApart fields
  | string | bool | int32 | int64 | quantity | intOrString | timestamp | bytes | any => true

def fieldsApart : List (String × Bool × Schema) → Bool
  | [] => true
  | (name, _, schema) :: rest =>
    !rest.any (·.1 == name) && namesApart schema && fieldsApart rest

end

variable {schema : Schema} {fields : List (String × Bool × Schema)} {members : Members}
  {entries : List (String × Json)} {value result : Json}

/-- A member that reads as missing. -/
def isMissing : Option Json → Bool
  | none | some .null => true
  | some _ => false

/-- How one more field is read: a missing one has its default if it is required, and any other one
is read by its own schema. -/
theorem decodeFields?_cons {name : String} {isRequired : Bool}
    (h : decodeFields? ((name, isRequired, schema) :: fields) members = some entries) :
    ∃ more, decodeFields? fields members = some more ∧
      (isMissing (members.get? name) = true ∧
          entries = (if isRequired then (name, defaultValue schema) :: more else more) ∨
        ∃ value, members.get? name = some value ∧ value ≠ .null ∧
          ∃ result, decode? schema value = some result ∧ entries = (name, result) :: more) := by
  rw [decodeFields?] at h
  obtain ⟨more, hmore, h⟩ := Option.bind_eq_some_iff.1 h
  refine ⟨more, hmore, ?_⟩
  split at h
  · exact .inl ⟨by rw [‹members.get? name = none›]; rfl, (Option.some.inj h).symm⟩
  · exact .inl ⟨by rw [‹members.get? name = some .null›]; rfl, (Option.some.inj h).symm⟩
  · obtain ⟨result, hresult, h⟩ := Option.bind_eq_some_iff.1 h
    exact .inr ⟨_, ‹_›, fun hnull ↦ ‹_ → False› hnull, result, hresult, (Option.some.inj h).symm⟩

theorem decodeFields?_of_isMissing {name : String} {isRequired : Bool} {more : List (String × Json)}
    (hmore : decodeFields? fields members = some more)
    (h : isMissing (members.get? name) = true) :
    decodeFields? ((name, isRequired, schema) :: fields) members =
      some (if isRequired then (name, defaultValue schema) :: more else more) := by
  rw [decodeFields?, hmore, Option.bind_eq_bind, Option.bind_some]
  split
  · rfl
  · rfl
  · rename_i value hne hfound
    rw [hfound] at h
    cases value with
    | null => exact absurd rfl hne
    | bool | num | str | arr | obj => cases h

theorem decodeFields?_of_decode? {name : String} {isRequired : Bool} {more : List (String × Json)}
    (hmore : decodeFields? fields members = some more) (hvalue : members.get? name = some value)
    (hne : value ≠ .null) (h : decode? schema value = some result) :
    decodeFields? ((name, isRequired, schema) :: fields) members =
      some ((name, result) :: more) := by
  rw [decodeFields?, hmore, hvalue, Option.bind_eq_bind, Option.bind_some]
  cases value with
  | null => exact absurd rfl hne
  | bool | num | str | arr | obj => simp [h]

/-- Only fields of the schema are kept. -/
theorem mem_names_of_decodeFields? (h : decodeFields? fields members = some entries)
    {entry : String × Json} (hentry : entry ∈ entries) : entry.1 ∈ fields.map Prod.fst := by
  induction fields generalizing entries with
  | nil =>
    obtain rfl : [] = entries := Option.some.inj h
    cases hentry
  | cons field rest ih =>
    obtain ⟨name, isRequired, schema⟩ := field
    obtain ⟨more, hmore, hcase⟩ := decodeFields?_cons h
    have hcons : ∀ value, entry ∈ (name, value) :: more →
        entry.1 ∈ name :: rest.map Prod.fst := by
      intro value hmem
      rcases List.mem_cons.1 hmem with rfl | hmem
      · exact List.mem_cons_self
      · exact List.mem_cons_of_mem _ (ih hmore hmem)
    rcases hcase with ⟨-, rfl⟩ | ⟨_, -, -, result, -, rfl⟩
    · cases isRequired with
      | true => exact hcons _ hentry
      | false => exact List.mem_cons_of_mem _ (ih hmore hentry)
    · exact hcons _ hentry

theorem fieldsApart_cons {name : String} {isRequired : Bool}
    (h : fieldsApart ((name, isRequired, schema) :: fields) = true) :
    name ∉ fields.map Prod.fst ∧ namesApart schema = true ∧ fieldsApart fields = true := by
  rw [fieldsApart, Bool.and_eq_true, Bool.and_eq_true, Bool.not_eq_true', List.any_eq_false] at h
  obtain ⟨⟨hfresh, hschema⟩, hfields⟩ := h
  refine ⟨fun hmem ↦ ?_, hschema, hfields⟩
  obtain ⟨field, hfield, rfl⟩ := List.mem_map.1 hmem
  exact hfresh field hfield (beq_self_eq_true _)

/-- Each name is read once. -/
theorem nodup_of_decodeFields? (hnames : fieldsApart fields = true)
    (h : decodeFields? fields members = some entries) : (entries.map Prod.fst).Nodup := by
  induction fields generalizing entries with
  | nil =>
    obtain rfl : [] = entries := Option.some.inj h
    exact List.nodup_nil
  | cons field rest ih =>
    obtain ⟨name, isRequired, schema⟩ := field
    obtain ⟨hfresh, -, hrest⟩ := fieldsApart_cons hnames
    obtain ⟨more, hmore, hcase⟩ := decodeFields?_cons h
    have hcons : ∀ value, (((name, value) :: more).map Prod.fst).Nodup := by
      intro value
      refine List.nodup_cons.2 ⟨fun hmem ↦ ?_, ih hrest hmore⟩
      obtain ⟨entry, hentry, rfl⟩ := List.mem_map.1 hmem
      exact hfresh (mem_names_of_decodeFields? hmore hentry)
    rcases hcase with ⟨-, rfl⟩ | ⟨_, -, -, result, -, rfl⟩
    · cases isRequired with
      | true => exact hcons _
      | false => exact ih hrest hmore
    · exact hcons _

/-! ## Reading again -/

/-- The default of a schema is what it reads of a value with nothing in it. -/
theorem exists_decode?_defaultValue (schema : Schema) :
    ∃ value, decode? schema value = some (defaultValue schema) := by
  cases schema with
  | string => exact ⟨.str "", rfl⟩
  | bool => exact ⟨.bool false, rfl⟩
  | int32 => exact ⟨.int 0, rfl⟩
  | int64 => exact ⟨.int 0, rfl⟩
  | quantity => exact ⟨.str "", rfl⟩
  | intOrString => exact ⟨.int 0, rfl⟩
  | timestamp => exact ⟨.str Timestamp.epoch.text, by decide +kernel⟩
  | bytes => exact ⟨.null, rfl⟩
  | any => exact ⟨.null, rfl⟩
  | list item => exact ⟨.arr [], rfl⟩
  | map value => exact ⟨.obj [], rfl⟩
  | struct fields =>
    have hfields : decodeFields? fields [] = some (defaultFields fields) := by
      induction fields with
      | nil => rfl
      | cons field rest ih =>
        obtain ⟨name, isRequired, schema⟩ := field
        rw [decodeFields?_of_isMissing ih rfl, defaultFields]
    exact ⟨.obj [], by rw [decode?, hfields]; rfl⟩

theorem exists_int_of_boundedInt? {low high : Int}
    (h : boundedInt? low high value = some result) : ∃ n, value = .int n ∧ result = .int n := by
  cases value with
  | num n =>
    cases n with
    | int n => exact ⟨n, rfl, (Option.some.inj ((Option.ite_none_right_eq_some ..).1 h).2).symm⟩
    | float x => cases h
  | null | bool | str | arr | obj => cases h

theorem boundedInt?_again {low high : Int} (h : boundedInt? low high value = some result) :
    boundedInt? low high result = some result := by
  obtain ⟨n, rfl, rfl⟩ := exists_int_of_boundedInt? h
  exact h

/-- Nothing but null is read as null. -/
theorem eq_null_of_decode? (h : decode? schema value = some .null) : value = .null := by
  have hbounded (low high : Int) : boundedInt? low high value ≠ some .null := by
    intro hnull
    obtain ⟨n, -, heq⟩ := exists_int_of_boundedInt? hnull
    cases heq
  cases schema with
  | any => exact Option.some.inj h
  | int32 => exact absurd h (hbounded _ _)
  | int64 => exact absurd h (hbounded _ _)
  | intOrString =>
    cases value with
    | str => cases h
    | null => rfl
    | bool | num | arr | obj => exact absurd h (hbounded (-0x80000000) 0x7FFFFFFF)
  | string | bool | quantity | timestamp | bytes | list | map | struct =>
    cases value <;> simp_all [decode?, Json.object]

theorem mapM_again {α : Type} {f : α → Option α} {items results : List α}
    (hf : ∀ item result, f item = some result → f result = some result)
    (h : items.mapM f = some results) : results.mapM f = some results := by
  induction items generalizing results with
  | nil =>
    obtain rfl : [] = results := Option.some.inj h
    rfl
  | cons item rest ih =>
    rw [List.mapM_cons] at h
    obtain ⟨first, hfirst, h⟩ := Option.bind_eq_some_iff.1 h
    obtain ⟨more, hmore, h⟩ := Option.bind_eq_some_iff.1 h
    obtain rfl : first :: more = results := Option.some.inj h
    rw [List.mapM_cons, hf item first hfirst, ih hmore]
    rfl

mutual

/-- What a schema has read it reads again as it is. -/
theorem decode?_again : (schema : Schema) → namesApart schema = true → {value result : Json} →
    decode? schema value = some result → decode? schema result = some result
  | string, _, value, result, h => by
    cases value <;> cases h
    rfl
  | bool, _, value, result, h => by
    cases value <;> cases h
    rfl
  | int32, _, value, result, h => boundedInt?_again h
  | int64, _, value, result, h => boundedInt?_again h
  | quantity, _, value, result, h => by
    cases value <;> cases h <;> rfl
  | intOrString, _, value, result, h => by
    cases value with
    | str s =>
      cases h
      rfl
    | num n =>
      obtain ⟨n, -, rfl⟩ := exists_int_of_boundedInt? h
      exact boundedInt?_again h
    | null | bool | arr | obj => cases h
  | timestamp, _, value, result, h => by
    cases value with
    | str s =>
      obtain ⟨t, ht, rfl⟩ := Option.map_eq_some_iff.1 h
      have hagain : Timestamp.parse? t.text = some t :=
        Timestamp.parse?_text (Timestamp.isValid_of_parse? ht)
      rw [decode?, hagain]
      rfl
    | null | bool | num | arr | obj => cases h
  | bytes, _, value, result, h => by
    cases value with
    | null =>
      cases h
      decide
    | str s =>
      obtain ⟨hvalid, heq⟩ := (Option.ite_none_right_eq_some ..).1 h
      obtain rfl := Option.some.inj heq
      exact h
    | bool | num | arr | obj => cases h
  | any, _, value, result, h => rfl
  | list item, hnames, value, result, h => by
    cases value with
    | arr items =>
      obtain ⟨results, hresults, rfl⟩ := Option.map_eq_some_iff.1 h
      have hagain : results.mapM (decode? item) = some results :=
        mapM_again (fun _ _ ↦ decode?_again item hnames) hresults
      rw [decode?, hagain]
      rfl
    | null | bool | num | str | obj => cases h
  | map item, hnames, value, result, h => by
    cases value with
    | obj members =>
      obtain ⟨results, hresults, rfl⟩ := Option.map_eq_some_iff.1 h
      let readMember (member : String × Json) : Option (String × Json) :=
        (decode? item member.2).map ((member.1, ·))
      have hmember (member again : String × Json) (hread : readMember member = some again) :
          readMember again = some again := by
        obtain ⟨result, hresult, rfl⟩ := Option.map_eq_some_iff.1 hread
        exact congrArg (Option.map _) (decode?_again item hnames hresult)
      have hagain : results.mapM readMember = some results := mapM_again hmember hresults
      rw [decode?]
      exact congrArg (Option.map Json.obj) hagain
    | null | bool | num | str | arr => cases h
  | struct fields, hnames, value, result, h => by
    cases value with
    | obj members =>
      obtain ⟨entries, hentries, rfl⟩ := Option.map_eq_some_iff.1 h
      have hkeys := Json.Members.get?_ofList (nodup_of_decodeFields? hnames hentries)
      have hagain : decodeFields? fields (Members.ofList entries) = some entries :=
        decodeFields?_again fields hnames hentries fun name _ ↦ hkeys name
      rw [Json.object, decode?, hagain]
      rfl
    | null | bool | num | str | arr => cases h

/-- Fields are read again from any members that agree with what was read on the names of the
fields. -/
theorem decodeFields?_again : (fields : List (String × Bool × Schema)) →
    fieldsApart fields = true → {members target : Members} → {entries : List (String × Json)} →
    decodeFields? fields members = some entries →
    (∀ name ∈ fields.map Prod.fst, target.get? name = entries.lookup name) →
    decodeFields? fields target = some entries
  | [], _, _, _, _, h, _ => h
  | (name, isRequired, schema) :: rest, hnames, members, target, entries, h, htarget => by
    obtain ⟨hfresh, hschema, hrest⟩ := fieldsApart_cons hnames
    obtain ⟨more, hmore, hcase⟩ := decodeFields?_cons h
    have hread : target.get? name = entries.lookup name := htarget name List.mem_cons_self
    have hother (value : Json) (other : String) (hmem : other ∈ rest.map Prod.fst) :
        ((name, value) :: more).lookup other = more.lookup other := by
      rw [Lookup.lookup_cons, if_neg]
      rintro rfl
      exact hfresh hmem
    have hbelow (hentries : ∀ other ∈ rest.map Prod.fst, entries.lookup other = more.lookup other) :
        decodeFields? rest target = some more :=
      decodeFields?_again rest hrest hmore fun other hmem ↦
        (htarget other (List.mem_cons_of_mem _ hmem)).trans (hentries other hmem)
    have hvalue (value result : Json) (hdecode : decode? schema value = some result)
        (heq : entries = (name, result) :: more) (hne : result ≠ .null) :
        decodeFields? ((name, isRequired, schema) :: rest) target = some entries := by
      subst heq
      rw [Lookup.lookup_cons, if_pos rfl] at hread
      exact decodeFields?_of_decode? (hbelow (hother result)) hread hne
        (decode?_again schema hschema hdecode)
    rcases hcase with ⟨-, rfl⟩ | ⟨value, -, hne, result, hdecode, heq⟩
    · cases isRequired with
      | true =>
        obtain ⟨value, hdefault⟩ := exists_decode?_defaultValue schema
        by_cases hnull : defaultValue schema = .null
        · -- A default of null reads as missing, and is filled in again.
          have hmissing : isMissing (target.get? name) = true := by
            rw [hread, if_pos rfl, Lookup.lookup_cons, if_pos rfl, hnull]
            rfl
          exact decodeFields?_of_isMissing (hbelow (hother _)) hmissing
        · exact hvalue value _ hdefault rfl hnull
      | false =>
        have hmissing : isMissing (target.get? name) = true := by
          have hnone : more.lookup name = none := by
            rw [List.lookup_eq_none_iff]
            intro entry hentry
            refine bne_iff_ne.2 ?_
            rintro rfl
            exact hfresh (mem_names_of_decodeFields? hmore hentry)
          rw [hread]
          exact congrArg isMissing hnone
        exact decodeFields?_of_isMissing (hbelow fun _ _ ↦ rfl) hmissing
    · exact hvalue value result hdecode heq fun hnull ↦ hne (eq_null_of_decode? (hnull ▸ hdecode))

end

end Schema

end ClusterObjects
