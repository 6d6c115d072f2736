import ClusterObjects.Proofs.Yaml.Compact

/-!
# Nodes of compact texts

The tokens of a value's compact text make a tree of the same shape, and the tree denotes the value
again, with its texts folded. There is no tree when a key lacks its mark.
-/

namespace ClusterObjects.Yaml

open Lexer

/-! ## What is read -/

mutual

/-- The value that a compact text stands for: its texts are folded, its keys have to fit. -/
def folded? : Json → Option Json
  | .null => some .null
  | .bool b => some (.bool b)
  | .num n => some (.num n)
  | .str s => (fold s.toList).map fun text ↦ .str (String.ofList text)
  | .arr items => (itemsFolded? items).map .arr
  | .obj members => (membersFolded? members).map .obj

def itemsFolded? : List Json → Option (List Json)
  | [] => some []
  | item :: rest => do return (← folded? item) :: (← itemsFolded? rest)

def membersFolded? : Json.Members → Option Json.Members
  | [] => some []
  | (key, value) :: rest =>
    if fitsKey key then do return (key, ← folded? value) :: (← membersFolded? rest) else none

end

mutual

/-- The node that a value's compact text makes. -/
def flowNode : Json → Node
  | .null => .scalar {} true "null"
  | .bool b => .scalar {} true (toString b)
  | .num n => .scalar {} true n.text
  | .str s => .scalar {} false s
  | .arr items => .sequence {} (flowItemNodes items)
  | .obj members => .mapping {} (flowMemberNodes members)

def flowItemNodes : List Json → List Node
  | [] => []
  | item :: rest => flowNode item :: flowItemNodes rest

def flowMemberNodes : Json.Members → List (Node × Node)
  | [] => []
  | (key, value) :: rest => (.scalar {} false key, flowNode value) :: flowMemberNodes rest

end

namespace Node

open Reader

/-! ## Trees -/

/-- What a reader makes of tokens, whatever stands behind them. -/
def Gives {α : Type} (reader : Reader α) (tokens : List Token) (result? : Option α) : Prop :=
  ∀ rest, reader.run { tokens := tokens ++ rest } =
    result?.map fun result ↦ (result, { tokens := rest })

/-- Whether a value begins with a token. -/
def beginsValue : Token → Bool
  | .scalar _ _ | .flowSequence | .flowMapping => true
  | _ => false

theorem both_eq_some_iff {read? read?' : Option (List Token)} {tokens : List Token} :
    both read? read?' = some tokens ↔
      ∃ read read', read? = some read ∧ read?' = some read' ∧ read ++ read' = tokens := by
  simp [both, Option.bind_eq_some_iff]

theorem valueTokens?_begins {value : Json} {tokens : List Token}
    (h : valueTokens? value = some tokens) :
    ∃ token more, tokens = token :: more ∧ beginsValue token := by
  cases value with
  | null | bool _ | num _ =>
    obtain rfl := Option.some.inj h
    exact ⟨_, _, rfl, rfl⟩
  | str s =>
    obtain ⟨folded, -, rfl⟩ := Option.map_eq_some_iff.mp h
    exact ⟨_, _, rfl, rfl⟩
  | arr items =>
    obtain ⟨_, _, ⟨⟩, -, rfl⟩ := both_eq_some_iff.mp h
    exact ⟨_, _, rfl, rfl⟩
  | obj members =>
    obtain ⟨_, _, ⟨⟩, -, rfl⟩ := both_eq_some_iff.mp h
    exact ⟨_, _, rfl, rfl⟩

theorem fold_of_fitsKey {key : String} (h : fitsKey key) : fold key.toList = some key.toList := by
  obtain ⟨hline, -⟩ := Bool.and_eq_true_iff.mp h
  exact fold_of_line fun c hc ↦ by
    simpa using List.countP_eq_zero.mp (beq_iff_eq.mp hline) c hc

section Steps

variable {fuel : Nat} {first block indentless : Bool} {token : Token} {tokens : List Token}

theorem gives_scalar (plain : Bool) (text : String) (hfuel : 1 ≤ fuel) :
    Gives (node fuel block indentless) [.scalar plain text] (some (scalar {} plain text)) := by
  obtain ⟨fuel, rfl⟩ := Nat.exists_eq_add_of_le' hfuel
  intro rest
  rw [node]
  rfl

theorem node_flowSequence :
    (node (fuel + 1) block indentless).run { tokens := .flowSequence :: tokens } =
      ((flowItems fuel true).run { tokens := tokens }).bind fun (items, source) ↦
        some (sequence {} items, source) := by
  rw [node]
  rfl

theorem node_flowMapping :
    (node (fuel + 1) block indentless).run { tokens := .flowMapping :: tokens } =
      ((flowEntries fuel true).run { tokens := tokens }).bind fun (entries, source) ↦
        some (mapping {} entries, source) := by
  rw [node]
  rfl

theorem flowItems_end : (flowItems (fuel + 1) first).run { tokens := .flowSequenceEnd :: tokens } =
    some ([], { tokens := tokens }) := by
  rw [flowItems]
  rfl

/-- One item, with the comma before it. -/
theorem flowItems_item (h : beginsValue token) :
    (flowItems (fuel + 1) first).run { tokens := separatorTokens first ++ token :: tokens } =
      ((node fuel false false).run { tokens := token :: tokens }).bind fun (item, source) ↦
        ((flowItems fuel false).run source).bind fun (items, source) ↦
          some (item :: items, source) := by
  rw [flowItems]
  cases token with
  | scalar _ _ | flowSequence | flowMapping => cases first <;> rfl
  | _ => exact absurd h Bool.false_ne_true

theorem flowEntries_end :
    (flowEntries (fuel + 1) first).run { tokens := .flowMappingEnd :: tokens } =
      some ([], { tokens := tokens }) := by
  rw [flowEntries]
  rfl

/-- One entry whose key has its mark, with the comma before it. -/
theorem flowEntries_entry (key : String) (h : beginsValue token) :
    (flowEntries (fuel + 3) first).run
        { tokens := separatorTokens first ++
            .key :: .scalar false key :: .value :: token :: tokens } =
      ((node (fuel + 1) false false).run { tokens := token :: tokens }).bind
        fun (value, source) ↦
          ((flowEntries (fuel + 2) false).run source).bind fun (entries, source) ↦
            some ((scalar {} false key, value) :: entries, source) := by
  rw [flowEntries]
  cases token with
  | scalar _ _ | flowSequence | flowMapping => cases first <;> rfl
  | _ => exact absurd h Bool.false_ne_true

/-- Without its mark a key is an entry of its own, and a colon cannot stand behind it. -/
theorem flowEntries_unmarked (key : String) :
    (flowEntries (fuel + 3) first).run
      { tokens := separatorTokens first ++ .scalar false key :: .value :: tokens } = none := by
  rw [flowEntries]
  cases first <;> rfl

end Steps

mutual

/-- A value's tokens are read as the node of the folded value. -/
theorem gives_value : (value : Json) → {tokens : List Token} → valueTokens? value = some tokens →
    (fuel : Nat) → (block indentless : Bool) → tokens.length ≤ fuel →
      Gives (node fuel block indentless) tokens ((folded? value).map flowNode)
  | .null, _, h, fuel, block, indentless, hfuel | .bool _, _, h, fuel, block, indentless, hfuel
  | .num _, _, h, fuel, block, indentless, hfuel => by
    obtain rfl := Option.some.inj h
    exact gives_scalar true _ hfuel
  | .str s, _, h, fuel, block, indentless, hfuel => by
    obtain ⟨text, htext, rfl⟩ := Option.map_eq_some_iff.mp h
    rw [folded?, htext]
    exact gives_scalar false _ hfuel
  | .arr items, _, h, fuel, block, indentless, hfuel => by
    obtain ⟨_, _, ⟨⟩, hread, rfl⟩ := both_eq_some_iff.mp h
    obtain ⟨read, _, hitems, ⟨⟩, rfl⟩ := both_eq_some_iff.mp hread
    obtain ⟨fuel, rfl⟩ := Nat.exists_eq_add_of_le' (Nat.le_trans (Nat.le_add_left 1 _) hfuel)
    have hlength : read.length < fuel := by
      simp only [List.length_append, List.length_cons, List.length_nil] at hfuel
      omega
    intro rest
    have hgives := gives_items items true hitems fuel hlength rest
    rw [folded?, List.append_assoc, List.singleton_append, node_flowSequence, hgives]
    cases itemsFolded? items <;> rfl
  | .obj members, _, h, fuel, block, indentless, hfuel => by
    obtain ⟨_, _, ⟨⟩, hread, rfl⟩ := both_eq_some_iff.mp h
    obtain ⟨read, _, hmembers, ⟨⟩, rfl⟩ := both_eq_some_iff.mp hread
    obtain ⟨fuel, rfl⟩ := Nat.exists_eq_add_of_le' (Nat.le_trans (Nat.le_add_left 1 _) hfuel)
    have hlength : read.length < fuel := by
      simp only [List.length_append, List.length_cons, List.length_nil] at hfuel
      omega
    intro rest
    have hgives := gives_members members true hmembers fuel hlength rest
    rw [folded?, List.append_assoc, List.singleton_append, node_flowMapping, hgives]
    cases membersFolded? members <;> rfl

theorem gives_items : (items : List Json) → (first : Bool) → {tokens : List Token} →
    itemTokens? first items = some tokens → (fuel : Nat) → tokens.length < fuel →
      Gives (flowItems fuel first) (tokens ++ [.flowSequenceEnd])
        ((itemsFolded? items).map flowItemNodes)
  | [], first, _, h, fuel, hfuel => by
    obtain rfl := Option.some.inj h
    obtain ⟨fuel, rfl⟩ := Nat.exists_eq_add_of_le' (show 1 ≤ fuel from hfuel)
    exact fun rest ↦ flowItems_end
  | item :: rest, first, _, h, fuel, hfuel => by
    obtain ⟨_, _, ⟨⟩, hread, rfl⟩ := both_eq_some_iff.mp h
    obtain ⟨read, more, hitem, hrest, rfl⟩ := both_eq_some_iff.mp hread
    -- What the item begins with is neither the end nor a key, so it is read as a node.
    obtain ⟨token, tokens, rfl, hbegins⟩ := valueTokens?_begins hitem
    simp only [List.length_append, List.length_cons] at hfuel
    obtain ⟨fuel, rfl⟩ := Nat.exists_eq_add_of_le' (show 1 ≤ fuel by omega)
    intro behind
    have hvalue := gives_value item hitem fuel false false (by simp only [List.length_cons]; omega)
      (more ++ .flowSequenceEnd :: behind)
    have hitems := gives_items rest false hrest fuel (by omega) behind
    simp only [List.append_assoc, List.cons_append, List.nil_append] at hvalue hitems ⊢
    rw [flowItems_item hbegins, hvalue, itemsFolded?]
    cases folded? item with
    | none => rfl
    | some folded =>
      simp only [Option.map_some, Option.bind_some, hitems]
      cases itemsFolded? rest <;> rfl

theorem gives_members : (members : Json.Members) → (first : Bool) → {tokens : List Token} →
    memberTokens? first members = some tokens → (fuel : Nat) → tokens.length < fuel →
      Gives (flowEntries fuel first) (tokens ++ [.flowMappingEnd])
        ((membersFolded? members).map flowMemberNodes)
  | [], first, _, h, fuel, hfuel => by
    obtain rfl := Option.some.inj h
    obtain ⟨fuel, rfl⟩ := Nat.exists_eq_add_of_le' (show 1 ≤ fuel from hfuel)
    exact fun rest ↦ flowEntries_end
  | (key, value) :: rest, first, _, h, fuel, hfuel => by
    obtain ⟨_, _, ⟨⟩, hread, rfl⟩ := both_eq_some_iff.mp h
    obtain ⟨_, _, hkey, hmore, rfl⟩ := both_eq_some_iff.mp hread
    obtain ⟨read, more, hvalue, hrest, rfl⟩ := both_eq_some_iff.mp hmore
    obtain ⟨text, htext, rfl⟩ := Option.map_eq_some_iff.mp hkey
    obtain ⟨token, tokens, rfl, hbegins⟩ := valueTokens?_begins hvalue
    intro behind
    rw [membersFolded?]
    cases hfits : fitsKey key with
    | false =>
      -- The scalar makes an entry without a value, and its colon ends the reading.
      simp only [keyTokens, hfits, List.length_append, List.length_cons] at hfuel
      obtain ⟨fuel, rfl⟩ := Nat.exists_eq_add_of_le' (show 3 ≤ fuel by omega)
      simp only [keyTokens, hfits, List.append_assoc, List.cons_append, List.nil_append,
        Bool.false_eq_true, if_false]
      exact flowEntries_unmarked _
    | true =>
      -- A key that fits is on one line, so there is nothing to fold.
      obtain rfl : text = key.toList := Option.some.inj (htext.symm.trans (fold_of_fitsKey hfits))
      simp only [keyTokens, hfits, if_true, List.length_append, List.length_cons] at hfuel
      obtain ⟨fuel, rfl⟩ := Nat.exists_eq_add_of_le' (show 3 ≤ fuel by omega)
      have hgives := gives_value value hvalue (fuel + 1) false false
        (by simp only [List.length_cons]; omega) (more ++ .flowMappingEnd :: behind)
      have hmembers := gives_members rest false hrest (fuel + 2) (by omega) behind
      simp only [keyTokens, hfits, List.append_assoc, List.cons_append, List.nil_append, if_true,
        String.ofList_toList] at hgives hmembers ⊢
      rw [flowEntries_entry key hbegins, hgives]
      cases folded? value with
      | none => rfl
      | some folded =>
        simp only [Option.map_some, Option.bind_some, hmembers]
        cases membersFolded? rest <;> rfl

end

theorem documents_object (fuel : Nat) {members : Json.Members} {tokens : List Token}
    (h : valueTokens? (.obj members) = some tokens) (hfuel : tokens.length ≤ fuel + 1) :
    (documents (fuel + 2) true).run { tokens := tokens ++ [.streamEnd] } =
      (folded? (.obj members)).map fun folded ↦
        ([flowNode folded], { tokens := [.streamEnd] }) := by
  have hgives := gives_value (.obj members) h (fuel + 1) true false hfuel [.streamEnd]
  obtain ⟨_, more, ⟨⟩, -, rfl⟩ := both_eq_some_iff.mp h
  rw [documents]
  change ((node (fuel + 1) true false).run _).bind _ = _
  rw [hgives]
  cases folded? (.obj members) with
  | none => rfl
  | some folded =>
    change ((documents (fuel + 1) false).run { tokens := [.streamEnd] }).bind _ = _
    rw [documents_last]
    rfl

/-- The tokens of an object are one document. -/
theorem documents?_object {members : Json.Members} {tokens : List Token}
    (h : valueTokens? (.obj members) = some tokens) : documents? (tokens ++ [.streamEnd]) =
      (folded? (.obj members)).map fun folded ↦ [flowNode folded] := by
  rw [documents?, documents_object _ h (by simp only [List.length_append]; omega), Option.map_map]
  rfl

end Node

/-! ## Values of trees -/

/-- The values that trees denote: members in order, numbers of 64 bits, nesting within a limit. -/
structure Readable (depth : Nat) (value : Json) : Prop where
  wellFormed : value.WellFormed
  numbers : ∀ n ∈ value.numbers, n.Fits
  nesting : value.nesting ≤ depth

section Readable

variable {depth : Nat} {item value : Json} {items : List Json} {key : String}
  {members : Json.Members}

theorem Readable.arr_cons (h : Readable (depth + 1) (.arr (item :: items))) :
    Readable depth item ∧ Readable (depth + 1) (.arr items) := by
  obtain ⟨⟨hitem, hitems⟩, hnumbers, hnesting⟩ := h
  obtain ⟨hfirst, hrest⟩ := List.forall_mem_append.mp hnumbers
  simp only [Json.nesting, Json.itemsNesting, Nat.add_le_add_iff_right, Nat.max_le] at hnesting
  exact ⟨⟨hitem, hfirst, hnesting.1⟩, ⟨hitems, hrest, Nat.succ_le_succ hnesting.2⟩⟩

theorem Readable.obj_cons (h : Readable (depth + 1) (.obj ((key, value) :: members))) :
    Readable depth value ∧ Readable (depth + 1) (.obj members) := by
  obtain ⟨⟨hsorted, hvalue, hmembers⟩, hnumbers, hnesting⟩ := h
  change ∀ n ∈ value.numbers ++ (Json.obj members).numbers, n.Fits at hnumbers
  obtain ⟨hfirst, hrest⟩ := List.forall_mem_append.mp hnumbers
  simp only [Json.nesting, Json.membersNesting, Nat.add_le_add_iff_right, Nat.max_le] at hnesting
  exact ⟨⟨hvalue, hfirst, hnesting.1⟩, ⟨⟨hsorted.of_cons, hmembers⟩, hrest,
    Nat.succ_le_succ hnesting.2⟩⟩

end Readable

theorem keys_of_membersFolded? {members folded : Json.Members}
    (h : membersFolded? members = some folded) : folded.map Prod.fst = members.map Prod.fst := by
  induction members generalizing folded with
  | nil =>
    obtain rfl := Option.some.inj h
    rfl
  | cons member rest ih =>
    obtain ⟨key, value⟩ := member
    rw [membersFolded?] at h
    split at h
    · obtain ⟨value, -, h⟩ := Option.bind_eq_some_iff.mp h
      obtain ⟨rest, hrest, h⟩ := Option.bind_eq_some_iff.mp h
      obtain rfl := Option.some.inj h
      exact congrArg (key :: ·) (ih hrest)
    · exact nomatch h

theorem sorted_of_membersFolded? {members folded : Json.Members}
    (h : membersFolded? members = some folded) (hsorted : members.Sorted) : folded.Sorted := by
  have hkeys : (members.map Prod.fst).Pairwise (· < ·) := List.pairwise_map.mpr hsorted
  rw [← keys_of_membersFolded? h] at hkeys
  exact List.pairwise_map.mp hkeys

section Values

variable (anchors : List (Nat × Node))

/-- The key and the value of an entry. -/
def entryOf (depth : Nat) (entry : Node × Node) : Resolving (String × Json) := do
  return (← keyText anchors entry.1, ← valueOf anchors depth entry.2)

theorem valueOf_sequence (depth : Nat) (nodes : List Node) :
    valueOf anchors (depth + 1) (.sequence {} nodes) = do
      return .arr (← nodes.mapM (valueOf anchors depth)) := by
  rw [valueOf]
  rfl

theorem valueOf_mapping (depth : Nat) (entries : List (Node × Node)) :
    valueOf anchors (depth + 1) (.mapping {} entries) = do
      return Json.object (← entries.mapM (entryOf anchors depth)) := by
  rw [valueOf]
  rfl

mutual

/-- The tree of a value that is folded denotes the folded value. -/
theorem valueOf_flowNode : (value : Json) → {folded : Json} → folded? value = some folded →
    (depth left : Nat) → Readable depth value →
      (valueOf anchors depth (flowNode folded)).run left = some (folded, left)
  | .null, _, h, depth, left, _ => by
    obtain rfl := Option.some.inj h
    rw [valueOf]
    rfl
  | .bool b, _, h, depth, left, _ => by
    obtain rfl := Option.some.inj h
    rw [valueOf]
    cases b <;> rfl
  | .num n, _, h, depth, left, hreadable => by
    obtain rfl := Option.some.inj h
    have hnumber := plainJson?_text (hreadable.numbers n List.mem_cons_self)
    rw [flowNode, valueOf]
    change (match plainJson? n.text with
      | some value => pure value
      | none => failure : Resolving Json).run left = _
    rw [hnumber]
    rfl
  | .str s, _, h, depth, left, _ => by
    obtain ⟨text, -, rfl⟩ := Option.map_eq_some_iff.mp h
    rw [valueOf]
    rfl
  | .arr items, _, h, depth, left, hreadable => by
    obtain ⟨folded, hitems, rfl⟩ := Option.map_eq_some_iff.mp h
    obtain ⟨depth, rfl⟩ := Nat.exists_eq_add_of_le' (Nat.le_trans (Nat.le_add_left 1 _)
      hreadable.nesting)
    have hvalues := mapM_valueOf items hitems depth left hreadable
    rw [flowNode, valueOf_sequence, StateT.run_bind, hvalues]
    rfl
  | .obj members, _, h, depth, left, hreadable => by
    obtain ⟨folded, hmembers, rfl⟩ := Option.map_eq_some_iff.mp h
    obtain ⟨depth, rfl⟩ := Nat.exists_eq_add_of_le' (Nat.le_trans (Nat.le_add_left 1 _)
      hreadable.nesting)
    have hentries := mapM_entryOf members hmembers depth left hreadable
    have hsorted := sorted_of_membersFolded? hmembers hreadable.wellFormed.sorted
    rw [flowNode, valueOf_mapping, StateT.run_bind, hentries]
    change some (Json.object folded, left) = _
    rw [Json.object, hsorted.ofList_eq]

theorem mapM_valueOf : (items : List Json) → {folded : List Json} →
    itemsFolded? items = some folded → (depth left : Nat) → Readable (depth + 1) (.arr items) →
      ((flowItemNodes folded).mapM (valueOf anchors depth)).run left = some (folded, left)
  | [], _, h, depth, left, _ => by
    obtain rfl := Option.some.inj h
    rfl
  | item :: rest, _, h, depth, left, hreadable => by
    obtain ⟨hitem, hrest⟩ := hreadable.arr_cons
    obtain ⟨folded, hfolded, h⟩ := Option.bind_eq_some_iff.mp h
    obtain ⟨more, hmore, h⟩ := Option.bind_eq_some_iff.mp h
    obtain rfl := Option.some.inj h
    rw [flowItemNodes, List.mapM_cons, StateT.run_bind,
      valueOf_flowNode item hfolded depth left hitem]
    change (((flowItemNodes more).mapM (valueOf anchors depth)).run left).bind _ = _
    rw [mapM_valueOf rest hmore depth left hrest]
    rfl

theorem mapM_entryOf : (members : Json.Members) → {folded : Json.Members} →
    membersFolded? members = some folded → (depth left : Nat) →
      Readable (depth + 1) (.obj members) →
      ((flowMemberNodes folded).mapM (entryOf anchors depth)).run left = some (folded, left)
  | [], _, h, depth, left, _ => by
    obtain rfl := Option.some.inj h
    rfl
  | (key, value) :: rest, _, h, depth, left, hreadable => by
    obtain ⟨hvalue, hrest⟩ := hreadable.obj_cons
    rw [membersFolded?] at h
    split at h
    · obtain ⟨folded, hfolded, h⟩ := Option.bind_eq_some_iff.mp h
      obtain ⟨more, hmore, h⟩ := Option.bind_eq_some_iff.mp h
      obtain rfl := Option.some.inj h
      have hentry : (entryOf anchors depth (.scalar {} false key, flowNode folded)).run left =
          some ((key, folded), left) := by
        change ((valueOf anchors depth (flowNode folded)).run left).bind _ = _
        rw [valueOf_flowNode value hfolded depth left hvalue]
        rfl
      rw [flowMemberNodes, List.mapM_cons, StateT.run_bind, hentry]
      change (((flowMemberNodes more).mapM (entryOf anchors depth)).run left).bind _ = _
      rw [mapM_entryOf rest hmore depth left hrest]
      rfl
    · exact nomatch h

end

end Values

end ClusterObjects.Yaml
