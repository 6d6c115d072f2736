import ClusterObjects.Proofs.Yaml.Flow
import ClusterObjects.Proofs.Yaml.Node
import ClusterObjects.Proofs.Yaml.Printer

/-!
# Tokens of compact JSON texts

Numbers and the words for null and the truth values are plain words, whatever their digits. With
these the text of every value is cut into its tokens, bracket by bracket and entry by entry, and the
text of an object is a whole document.
-/

namespace ClusterObjects.Yaml

open Decimal (Binary64)

namespace Lexer

/-! ## Words -/

section Words

variable {c : Char} {cs : List Char} {digits : Nat} {power : Int}

theorem isWordPart_of_isDigit (h : c.isDigit) : isWordPart c := by
  simp [isWordPart, Char.isAlphanum, h]

theorem isDigit_of_hexValue? {n : Nat} (h : Json.Token.hexValue? c = some n) (hn : n < 10) :
    c.isDigit := by
  by_contra hc
  rw [Json.Token.hexValue?, if_neg hc] at h
  split_ifs at h
  all_goals
    obtain rfl := Option.some.inj h
    omega

theorem isDigit_of_digits? {n : Nat} (h : Plain.digits? 10 cs = some n) : ∀ c ∈ cs, c.isDigit := by
  have hfold (read : Nat) (hread : cs.foldlM (fun n c ↦ do
      let d ← Json.Token.hexValue? c
      if d < 10 then some (10 * n + d) else none) read = some n) : ∀ c ∈ cs, c.isDigit := by
    clear h
    induction cs generalizing read with
    | nil => exact List.forall_mem_nil _
    | cons c cs ih =>
      rw [List.foldlM_cons] at hread
      obtain ⟨next, hstep, hread⟩ := Option.bind_eq_some_iff.mp hread
      obtain ⟨d, hd, hstep⟩ := Option.bind_eq_some_iff.mp hstep
      obtain ⟨hsmall, -⟩ := Option.ite_none_right_eq_some.mp hstep
      exact List.forall_mem_cons.mpr ⟨isDigit_of_hexValue? hd hsmall, ih next hread⟩
  rw [Plain.digits?] at h
  exact hfold 0 (Option.ite_none_left_eq_some.mp h).2

theorem isWordPart_of_exponent? (h : Plain.exponent? cs = some power) :
    ∀ c ∈ cs, isWordPart c := by
  have hdigits {rest : List Char} (h : Plain.digits? 10 rest ≠ none) :
      ∀ c ∈ rest, isWordPart c := by
    obtain ⟨n, hn⟩ := Option.ne_none_iff_exists'.mp h
    exact fun c hc ↦ isWordPart_of_isDigit (isDigit_of_digits? hn c hc)
  cases cs with
  | nil => exact List.forall_mem_nil _
  | cons e rest =>
    obtain ⟨he, h⟩ := Option.ite_none_right_eq_some.mp h
    have hmark : isWordPart e := by
      obtain rfl | rfl : e = 'e' ∨ e = 'E' := by simpa using he
      · rfl
      · rfl
    refine List.forall_mem_cons.mpr ⟨hmark, ?_⟩
    split at h
    · exact List.forall_mem_cons.mpr ⟨rfl, hdigits fun hnone ↦ by simp [hnone] at h⟩
    · exact List.forall_mem_cons.mpr ⟨rfl, hdigits fun hnone ↦ by simp [hnone] at h⟩
    · exact hdigits fun hnone ↦ by simp [hnone] at h

theorem isWordPart_of_spells (h : Spells cs digits power) : ∀ c ∈ cs, isWordPart c := by
  cases h with
  | pointed hwhole hfraction htail =>
    exact List.forall_mem_append.mpr ⟨fun c hc ↦ isWordPart_of_isDigit (hwhole.digits c hc),
      List.forall_mem_cons.mpr ⟨rfl, List.forall_mem_append.mpr
        ⟨fun c hc ↦ isWordPart_of_isDigit (hfraction c hc), isWordPart_of_exponent? htail⟩⟩⟩
  | scaled hwhole htail =>
    exact List.forall_mem_append.mpr ⟨fun c hc ↦ isWordPart_of_isDigit (hwhole.digits c hc),
      isWordPart_of_exponent? htail⟩

theorem isFlowWord_of_isDigit (hhead : ∃ d back, cs = d :: back ∧ d.isDigit)
    (hparts : ∀ c ∈ cs, isWordPart c) : IsFlowWord cs ∧ IsFlowWord ('-' :: cs) := by
  obtain ⟨d, back, rfl, hd⟩ := hhead
  have halphanum : d.isAlphanum := by simp [Char.isAlphanum, hd]
  exact ⟨⟨hparts, d, back, rfl, .inl halphanum⟩,
    ⟨List.forall_mem_cons.mpr ⟨rfl, hparts⟩, '-', d :: back, rfl, .inr ⟨rfl, d, rfl, halphanum⟩⟩⟩

theorem isFlowWord_int (n : Int) : IsFlowWord (Number.int n).text.toList := by
  have hdigits (m : Nat) :
      IsFlowWord (Nat.toDigits 10 m) ∧ IsFlowWord ('-' :: Nat.toDigits 10 m) := by
    obtain ⟨d, back, hcs⟩ := List.exists_cons_of_ne_nil (Nat.toDigits_ne_nil (n := m) (b := 10))
    refine isFlowWord_of_isDigit ⟨d, back, hcs, head?_isDigit_toDigits (n := m) d ?_⟩ fun c hc ↦
      isWordPart_of_isDigit (Nat.isDigit_of_mem_toDigits (by decide) (by decide) hc)
    rw [hcs]
    rfl
  rcases lt_or_ge n 0 with hneg | hnonneg
  · obtain ⟨m, rfl⟩ : ∃ m : Nat, n = -(m : Int) := ⟨n.natAbs, by omega⟩
    rw [toList_text_neg (by omega)]
    exact (hdigits m).2
  · obtain ⟨m, rfl⟩ := Int.eq_ofNat_of_zero_le hnonneg
    rw [toList_text]
    exact (hdigits m).1

theorem isFlowWord_float (x : Binary64) : IsFlowWord (Number.float x).text.toList := by
  have hdigits : IsFlowWord (Number.layout.write x.shortest) ∧
      IsFlowWord ('-' :: Number.layout.write x.shortest) := by
    by_cases hzero : x.shortest.digits = 0
    · rw [write_zero hzero]
      exact isFlowWord_of_isDigit ⟨'0', _, rfl, rfl⟩ (List.all_eq_true.mp rfl)
    · obtain ⟨_, _, hspells, -⟩ := spells_write (show Number.layout.pointed = true from rfl) hzero
      exact isFlowWord_of_isDigit hspells.head?_isDigit (isWordPart_of_spells hspells)
  rw [toList_text_float]
  cases x.negative
  · exact hdigits.1
  · exact hdigits.2

/-- A number is a word. -/
theorem isFlowWord_text : (n : Number) → IsFlowWord n.text.toList
  | .int n => isFlowWord_int n
  | .float x => isFlowWord_float x

end Words

/-! ## Tokens of values -/

/-- The comma before an entry that is not the first. -/
def separator (first : Bool) : List Char := if first then [] else [',']

def separatorTokens (first : Bool) : List Token := if first then [] else [.flowEntry]

/-- The items of an array, with a comma before each one that is not the first. -/
def itemsText : (first : Bool) → List Json → List Char
  | _, [] => []
  | first, item :: rest => separator first ++ (Json.write item ++ itemsText false rest)

def membersText : (first : Bool) → Json.Members → List Char
  | _, [] => []
  | first, (key, value) :: rest => separator first ++
      ((Json.quoted key ++ [':']) ++ (Json.write value ++ membersText false rest))

mutual

/-- The tokens of a value's text, when it has tokens. -/
def valueTokens? : Json → Option (List Token)
  | .null => some [.scalar true "null"]
  | .bool b => some [.scalar true (toString b)]
  | .num n => some [.scalar true n.text]
  | .str s => textTokens? s
  | .arr items =>
    both (some [.flowSequence]) (both (itemTokens? true items) (some [.flowSequenceEnd]))
  | .obj members =>
    both (some [.flowMapping]) (both (memberTokens? true members) (some [.flowMappingEnd]))

def itemTokens? : (first : Bool) → List Json → Option (List Token)
  | _, [] => some []
  | first, item :: rest =>
    both (some (separatorTokens first)) (both (valueTokens? item) (itemTokens? false rest))

def memberTokens? : (first : Bool) → Json.Members → Option (List Token)
  | _, [] => some []
  | first, (key, value) :: rest =>
    both (some (separatorTokens first))
      (both (keyTokens? key) (both (valueTokens? value) (memberTokens? false rest)))

end

theorem writeItems_eq (items : List Json) : Json.writeItems items = itemsText true items := by
  have hcons (item : Json) (rest : List Json) :
      Json.writeItems (item :: rest) = Json.write item ++ itemsText false rest := by
    induction rest generalizing item with
    | nil => exact (List.append_nil _).symm
    | cons next rest ih => exact congrArg (Json.write item ++ ',' :: ·) (ih next)
  cases items with
  | nil => rfl
  | cons item rest => exact hcons item rest

theorem writeMembers_eq (members : Json.Members) :
    Json.writeMembers members = membersText true members := by
  have hcons (key : String) (value : Json) (rest : Json.Members) :
      Json.writeMembers ((key, value) :: rest) =
        (Json.quoted key ++ [':']) ++ (Json.write value ++ membersText false rest) := by
    induction rest generalizing key value with
    | nil => simp [Json.writeMembers, membersText]
    | cons next rest ih =>
      rw [Json.writeMembers, ih next.1 next.2]
      simp [membersText, separator]
  cases members with
  | nil => rfl
  | cons member rest => exact hcons member.1 member.2 rest

theorem Lexes.nil_unkeyed (flow : Nat) (keyed : Bool) (follows : List Char → Prop) :
    Lexes ⟨flow, keyed⟩ [] (some []) ⟨flow, false⟩ follows :=
  fun lexer _ _ _ h ↦ ⟨lexer, { h with keyed := Place.not_keyed }, .refl lexer⟩

/-- A key may begin behind the opening bracket and behind a comma. -/
theorem lexes_separator (flow : Nat) (first : Bool) :
    Lexes ⟨flow, first⟩ (separator first) (some (separatorTokens first)) ⟨flow, true⟩
      fun _ ↦ True := by
  cases first with
  | true => exact .nil _ _
  | false => exact lexes_comma flow false

theorem endsValue_itemsText {rest : List Char} (items : List Json) (h : EndsValue rest) :
    EndsValue (itemsText false items ++ rest) := by
  cases items with
  | nil => exact h
  | cons item items => exact ⟨',', rfl, rfl⟩

theorem endsValue_membersText {rest : List Char} (members : Json.Members) (h : EndsValue rest) :
    EndsValue (membersText false members ++ rest) := by
  cases members with
  | nil => exact h
  | cons member members => exact ⟨',', rfl, rfl⟩

/-- What stands in brackets, with the brackets around it. -/
theorem Lexes.bracketed {opening closing : Char} {start finish : Token} {text : List Char}
    {read? : Option (List Token)} (flow : Nat) (keyed : Bool)
    (hbrackets : opening = '[' ∧ start = .flowSequence ∧ closing = ']' ∧ finish = .flowSequenceEnd ∨
      opening = '\x7b' ∧ start = .flowMapping ∧ closing = '\x7d' ∧ finish = .flowMappingEnd)
    (h : Lexes ⟨flow + 1, true⟩ text read? ⟨flow + 1, false⟩ EndsValue) :
    Lexes ⟨flow, keyed⟩ (opening :: (text ++ [closing]))
      (both (some [start]) (both read? (some [finish]))) ⟨flow, false⟩ fun _ ↦ True := by
  have hopen : opening = '[' ∧ start = .flowSequence ∨ opening = '\x7b' ∧ start = .flowMapping :=
    hbrackets.imp (fun h ↦ ⟨h.1, h.2.1⟩) fun h ↦ ⟨h.1, h.2.1⟩
  have hclose : closing = ']' ∧ finish = .flowSequenceEnd ∨
      closing = '\x7d' ∧ finish = .flowMappingEnd := hbrackets.imp (·.2.2) (·.2.2)
  have hends : EndsValue [closing] := by
    refine ⟨closing, rfl, ?_⟩
    obtain ⟨rfl, -⟩ | ⟨rfl, -⟩ := hclose <;> rfl
  have hinner := h.append (lexes_close flow false hclose) fun rest _ ↦ hends
  exact (lexes_open flow keyed hopen).append hinner fun _ _ ↦ trivial

mutual

/-- The text of a value in brackets is cut into its tokens. -/
theorem lexes_write : (value : Json) → (flow : Nat) → (keyed : Bool) →
    Lexes ⟨flow + 1, keyed⟩ (Json.write value) (valueTokens? value) ⟨flow + 1, false⟩ EndsValue
  | .null, flow, keyed => by
    have hword : IsFlowWord "null".toList :=
      ⟨List.all_eq_true.mp rfl, 'n', "ull".toList, rfl, .inl rfl⟩
    exact lexes_word hword flow keyed
  | .bool true, flow, keyed => by
    have hword : IsFlowWord "true".toList :=
      ⟨List.all_eq_true.mp rfl, 't', "rue".toList, rfl, .inl rfl⟩
    exact lexes_word hword flow keyed
  | .bool false, flow, keyed => by
    have hword : IsFlowWord "false".toList :=
      ⟨List.all_eq_true.mp rfl, 'f', "alse".toList, rfl, .inl rfl⟩
    exact lexes_word hword flow keyed
  | .num n, flow, keyed => by
    have hnumber := lexes_word (isFlowWord_text n) flow keyed
    rwa [String.ofList_toList] at hnumber
  | .str s, flow, keyed => (lexes_text s (flow + 1) keyed).mono fun _ _ ↦ trivial
  | .arr items, flow, keyed => by
    rw [Json.write, writeItems_eq]
    exact (Lexes.bracketed (flow + 1) keyed (.inl ⟨rfl, rfl, rfl, rfl⟩)
      (lexes_items items (flow + 1) true)).mono fun _ _ ↦ trivial
  | .obj members, flow, keyed => by
    rw [Json.write, writeMembers_eq]
    exact (Lexes.bracketed (flow + 1) keyed (.inr ⟨rfl, rfl, rfl, rfl⟩)
      (lexes_members members (flow + 1) true)).mono fun _ _ ↦ trivial

theorem lexes_items : (items : List Json) → (flow : Nat) → (first : Bool) →
    Lexes ⟨flow + 1, first⟩ (itemsText first items) (itemTokens? first items) ⟨flow + 1, false⟩
      EndsValue
  | [], flow, first => .nil_unkeyed (flow + 1) first EndsValue
  | item :: rest, flow, first => by
    have hitem := (lexes_write item flow true).append (lexes_items rest flow false) fun _ ↦
      endsValue_itemsText rest
    exact (lexes_separator (flow + 1) first).append hitem fun _ _ ↦ trivial

theorem lexes_members : (members : Json.Members) → (flow : Nat) → (first : Bool) →
    Lexes ⟨flow + 1, first⟩ (membersText first members) (memberTokens? first members)
      ⟨flow + 1, false⟩ EndsValue
  | [], flow, first => .nil_unkeyed (flow + 1) first EndsValue
  | (key, value) :: rest, flow, first => by
    have hvalue := (lexes_write value flow false).append (lexes_members rest flow false) fun _ ↦
      endsValue_membersText rest
    have hmember := (lexes_key key flow).append hvalue fun _ _ ↦ trivial
    exact (lexes_separator (flow + 1) first).append hmember fun _ _ ↦ trivial

end

/-- Behind the last token the text ends. -/
theorem Flowing.run_end {place : Place} {tokens : List Token} {lexer : Lexer}
    (h : Flowing place tokens [] lexer) (fuel : Nat) :
    (run (fuel + 1) lexer).map (·.tokens) = some (.streamEnd :: tokens) := by
  have hsettle := h.settle nofun
  replace h := h.refreshed
  have hpeek : lexer.refreshed.cursor.peek = none := by
    rw [Cursor.peek, h.rest]
    rfl
  have hunindent : lexer.refreshed.unindent (-1) = lexer.refreshed :=
    unindent_of_le (Int.le_of_eq h.indent)
  obtain ⟨keys, hdrop, -⟩ := dropKey_eq h.loose
  rw [run_succ, hsettle, Option.bind_some, hpeek]
  simp only [readEnd, leaveBlocks, hunindent, hdrop, Option.bind_eq_bind, Option.bind_some,
    Option.pure_def, Option.map_some, push, h.tokens]

/-- A text that leads to its end is cut into its tokens. -/
theorem ofText?_of_lexes {place : Place} {text : List Char} {read? : Option (List Token)}
    {follows : List Char → Prop} (h : Lexes ⟨0, true⟩ text read? place follows)
    (hfollows : follows []) (hboundary : (Cursor.ofText text).atDocumentBoundary = false)
    (hallowed : text.all isAllowed) : Token.ofText? text = both read? (some [.streamEnd]) := by
  have hstart : Flowing ⟨0, true⟩ [] (text ++ []) { cursor := Cursor.ofText text } :=
    ⟨(List.append_nil text).symm, hboundary, rfl, fun _ ↦ rfl, rfl, rfl, rfl, rfl, by
      rintro _ (_ | ⟨_, ⟨⟩⟩)
      rfl⟩
  have hcomes := h _ _ _ hfollows hstart
  rw [Token.ofText?, if_pos hallowed]
  -- The lexer starts at the first place, with steps enough for every character and the end.
  cases read? with
  | none => exact congrArg _ (hcomes _ (Nat.lt_succ_self _))
  | some read =>
    obtain ⟨later, hlater, hreads⟩ := hcomes
    obtain ⟨left, hleft, hrun⟩ := hreads _ (Nat.lt_succ_self _)
    obtain ⟨left, rfl⟩ := Nat.exists_eq_add_of_lt hleft
    have hend := congrArg (Option.map List.reverse)
      (hlater.run_end (later.cursor.rest.length + left))
    rw [Option.map_map] at hend
    refine (congrArg _ hrun).trans (hend.trans ?_)
    simp [both]

/-- The tokens of an object's text. -/
theorem ofText?_write (members : Json.Members)
    (hallowed : (Json.write (.obj members)).all isAllowed) :
    Token.ofText? (Json.write (.obj members)) =
      both (valueTokens? (.obj members)) (some [.streamEnd]) := by
  have hlexes := Lexes.bracketed 0 true (.inr ⟨rfl, rfl, rfl, rfl⟩) (lexes_members members 0 true)
  rw [← writeMembers_eq] at hlexes
  exact ofText?_of_lexes hlexes trivial rfl hallowed

end Lexer

end ClusterObjects.Yaml
