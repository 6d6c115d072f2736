import ClusterObjects.Yaml.Node

/-!
# Nodes of block mappings

The tokens of a mapping without anchors and tags are read as its entries, one after another. What
tokens are read as is stated for every rest that follows and for every number of steps that is at
least their own number, so that the tokens of entries can be put together.
-/

namespace ClusterObjects.Yaml

namespace Node

open Reader

/-- Tokens that are read as a node, wherever a value may stand. -/
structure Parses (tokens : List Token) (value : Node) : Prop where
  begins : ∃ token ∈ tokens.head?, endsBlockEntry token = false
  read : ∀ (fuel : Nat) (indentless : Bool) (rest : List Token), tokens.length ≤ fuel →
    (node fuel true indentless).run { tokens := tokens ++ rest } = some (value, { tokens := rest })

/-- Tokens that are read as the entries of a mapping. -/
def ParsesEntries (tokens : List Token) (entries : List (Node × Node)) : Prop :=
  ∀ (fuel : Nat) (rest : List Token), tokens.length < fuel →
    (blockEntries fuel).run { tokens := tokens ++ .blockEnd :: rest } =
      some (entries, { tokens := rest })

theorem accept_self (token : Token) (rest : List Token) :
    (accept token).run { tokens := token :: rest } = some (true, { tokens := rest }) := by
  change (if token = token then _ else _ : Reader Bool).run _ = _
  rw [if_pos rfl]
  rfl

theorem nodeUnless_eq (fuel : Nat) {absent : Token → Bool} (block indentless : Bool) {token : Token}
    (rest : List Token) (h : absent token = false) :
    (nodeUnless (fuel + 1) absent block indentless).run { tokens := token :: rest } =
      (node fuel block indentless).run { tokens := token :: rest } := by
  rw [nodeUnless]
  change (if absent token then pure empty else node fuel block indentless : Reader Node).run _ = _
  rw [h]
  rfl

theorem parses_scalar (plain : Bool) (text : String) :
    Parses [.scalar plain text] (scalar {} plain text) where
  begins := ⟨.scalar plain text, rfl, rfl⟩
  read fuel indentless rest hfuel := by
    obtain ⟨fuel, rfl⟩ := Nat.exists_eq_add_of_le' (show 1 ≤ fuel from hfuel)
    rw [node]
    rfl

theorem Parses.mapping {tokens : List Token} {entries : List (Node × Node)}
    (h : ParsesEntries tokens entries) :
    Parses (.blockMapping :: tokens ++ [.blockEnd]) (mapping {} entries) where
  begins := ⟨.blockMapping, rfl, rfl⟩
  read fuel indentless rest hfuel := by
    simp only [List.cons_append, List.length_cons, List.length_append, List.length_nil] at hfuel
    obtain ⟨fuel, rfl⟩ := Nat.exists_eq_add_of_le' (show 1 ≤ fuel by omega)
    have hentries := h fuel rest (by omega)
    rw [List.append_assoc, node]
    change ((blockEntries fuel).run { tokens := tokens ++ .blockEnd :: rest }).bind _ = _
    rw [hentries]
    rfl

theorem parsesEntries_nil : ParsesEntries [] [] := by
  intro fuel rest hfuel
  obtain ⟨fuel, rfl⟩ := Nat.exists_eq_add_of_lt hfuel
  rw [blockEntries]
  rfl

theorem ParsesEntries.cons {value : Node} {entries : List (Node × Node)}
    {valueTokens tokens : List Token} (key : String) (hvalue : Parses valueTokens value)
    (hentries : ParsesEntries tokens entries) :
    ParsesEntries (.key :: .scalar true key :: .value :: valueTokens ++ tokens)
      ((scalar {} true key, value) :: entries) := by
  intro fuel rest hfuel
  simp only [List.cons_append, List.length_cons, List.length_append] at hfuel
  obtain ⟨fuel, rfl⟩ := Nat.exists_eq_add_of_le' (show 3 ≤ fuel by omega)
  obtain ⟨token, htoken, hbegins⟩ := hvalue.begins
  obtain ⟨more, rfl⟩ : ∃ more, valueTokens = token :: more := List.head?_eq_some_iff.mp htoken
  have hkey (more : List Token) : (nodeUnless (fuel + 2) endsBlockEntry true true).run
      { tokens := .scalar true key :: more } = some (scalar {} true key, { tokens := more }) := by
    rw [nodeUnless_eq _ _ _ _ rfl]
    exact (parses_scalar true key).read (fuel + 1) true more (by simp)
  have hfound : (nodeUnless (fuel + 2) endsBlockEntry true true).run
      { tokens := token :: (more ++ tokens ++ .blockEnd :: rest) } =
        some (value, { tokens := tokens ++ .blockEnd :: rest }) := by
    rw [nodeUnless_eq _ _ _ _ hbegins, List.append_assoc]
    exact hvalue.read (fuel + 1) true _ (by omega)
  have hrest := hentries (fuel + 2) rest (by omega)
  rw [blockEntries]
  simp only [List.cons_append, StateT.run_bind, accept_self, Option.bind_eq_bind, Option.bind_some,
    if_true, hkey, hfound, hrest]
  rfl

/-! ## Documents -/

theorem documents_last (fuel : Nat) : (documents (fuel + 1) false).run { tokens := [.streamEnd] } =
    some ([], { tokens := [.streamEnd] }) := by
  rw [documents]
  cases fuel <;> rfl

theorem documents_mapping (fuel : Nat) {tokens : List Token} {entries : List (Node × Node)}
    (h : ParsesEntries tokens entries) (hfuel : tokens.length + 1 ≤ fuel) :
    (documents (fuel + 2) true).run
      { tokens := .blockMapping :: (tokens ++ [.blockEnd, .streamEnd]) } =
      some ([mapping {} entries], { tokens := [.streamEnd] }) := by
  have hroot := (Parses.mapping h).read (fuel + 1) false [.streamEnd] (by simpa using hfuel)
  simp only [List.cons_append, List.append_assoc, List.nil_append] at hroot
  rw [documents]
  change ((node (fuel + 1) true false).run _).bind _ = _
  rw [hroot]
  change ((documents (fuel + 1) false).run { tokens := [.streamEnd] }).bind _ = _
  rw [documents_last]
  rfl

/-- A mapping that nothing follows is the only document. -/
theorem documents?_mapping {tokens : List Token} {entries : List (Node × Node)}
    (h : ParsesEntries tokens entries) :
    documents? (.blockMapping :: (tokens ++ [.blockEnd, .streamEnd])) =
      some [mapping {} entries] := by
  rw [documents?, documents_mapping _ h (by simp; omega)]
  rfl

end Node

end ClusterObjects.Yaml
