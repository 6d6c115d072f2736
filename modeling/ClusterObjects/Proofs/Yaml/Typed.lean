import ClusterObjects.Proofs.Yaml.Printer
import ClusterObjects.Yaml.Typed

/-!
# Settings that are asked for by type

A setting is found under its key in the node that it was written as, and a text, a truth value or a
number that is asked for is the one that was written. A number is written without a leading zero, so
that it is one number and no text, and a plain text is never empty and never looks like a null.
-/

namespace ClusterObjects.Yaml

open Node

/-! ## Numbers -/

theorem hexValue?_of_isDigit {c : Char} (h : c.isDigit) :
    Json.Token.hexValue? c = some (c.toNat - '0'.toNat) := if_pos h

theorem toNat_of_isDigit {c : Char} (h : c.isDigit) :
    '0'.toNat ≤ c.toNat ∧ c.toNat ≤ '9'.toNat := by
  simpa [Char.isDigit, UInt32.le_iff_toNat_le] using h

theorem digits?_eq {cs : List Char} (hne : cs ≠ []) (h : ∀ c ∈ cs, c.isDigit) :
    Plain.digits? 10 cs = some (Nat.ofDigitChars 10 cs 0) := by
  have hfold (read : Nat) : cs.foldlM (fun n c ↦ do
      let d ← Json.Token.hexValue? c
      if d < 10 then some (10 * n + d) else none) read = some (Nat.ofDigitChars 10 cs read) := by
    clear hne
    induction cs generalizing read with
    | nil => rfl
    | cons c cs ih =>
      obtain ⟨hc, hcs⟩ := List.forall_mem_cons.mp h
      have hrange := toNat_of_isDigit hc
      have hsmall : c.toNat - '0'.toNat < 10 := by
        simp only [Char.reduceToNat] at hrange ⊢
        omega
      rw [List.foldlM_cons, hexValue?_of_isDigit hc]
      simp only [Option.bind_eq_bind, Option.bind_some, if_pos hsmall]
      exact ih hcs _
  rw [Plain.digits?, List.isEmpty_eq_false_iff.mpr hne]
  exact hfold 0

theorem head?_toDigits {n : Nat} (hn : n ≠ 0) : (Nat.toDigits 10 n).head? ≠ some '0' := by
  induction n using Nat.strongRecOn with
  | ind n ih =>
    rw [Nat.toDigits_eq_if (by omega)]
    split
    · rename_i hsmall
      have hdigit : ∀ m < 10, m ≠ 0 → [Nat.digitChar m].head? ≠ some '0' := by decide
      exact hdigit n hsmall hn
    · rw [List.head?_append_of_ne_nil _ Nat.toDigits_ne_nil]
      exact ih (n / 10) (by omega) (by omega)

/-- A scalar that begins with a digit, and not with a zero before another digit. -/
theorem hasLeadingZero_eq_false {cs : List Char} (hdigit : ∀ c ∈ cs.head?, c.isDigit)
    (hzero : ∀ c rest, cs = '0' :: c :: rest → c.isDigit = false) :
    Plain.hasLeadingZero cs = false ∧ Plain.hasLeadingZero ('-' :: cs) = false := by
  cases cs with
  | nil => exact ⟨rfl, rfl⟩
  | cons d rest =>
    have hd : d.isDigit := hdigit d rfl
    have hminus : d ≠ '-' := by
      rintro rfl
      exact absurd hd (by decide)
    have hplus : d ≠ '+' := by
      rintro rfl
      exact absurd hd (by decide)
    cases rest with
    | nil => simp [Plain.hasLeadingZero, hminus, hplus]
    | cons c rest =>
      by_cases hfirst : d = '0'
      · subst hfirst
        simp [Plain.hasLeadingZero, hzero c rest rfl]
      · simp [Plain.hasLeadingZero, hminus, hplus, hfirst]

theorem ne_zero_cons_of_toDigits {n : Nat} (c : Char) (rest : List Char) :
    Nat.toDigits 10 n ≠ '0' :: c :: rest := by
  rcases Nat.eq_zero_or_pos n with rfl | hpos
  · exact fun h ↦ nomatch h
  · exact fun h ↦ head?_toDigits (Nat.ne_of_gt hpos) (h ▸ rfl)

theorem head?_isDigit_toDigits {n : Nat} : ∀ c ∈ (Nat.toDigits 10 n).head?, c.isDigit :=
  fun _ hc ↦ Nat.isDigit_of_mem_toDigits (by decide) (by decide) (List.mem_of_mem_head? hc)

theorem nat?_toDigits (n : Nat) : Plain.nat? (Nat.toDigits 10 n) = some n := by
  have hvalue := digits?_eq (Nat.toDigits_ne_nil (n := n) (b := 10)) fun c hc ↦
    Nat.isDigit_of_mem_toDigits (by decide) (by decide) hc
  have hbased : Plain.based? (Nat.toDigits 10 n) = none := by
    unfold Plain.based?
    split <;> first | rfl | exact absurd ‹_› (ne_zero_cons_of_toDigits _ _)
  rw [Plain.nat?, hbased]
  exact hvalue.trans (congrArg some Nat.ofDigitChars_ten_toDigits)

theorem hasLeadingZero_toDigits (n : Nat) : Plain.hasLeadingZero (Nat.toDigits 10 n) = false ∧
    Plain.hasLeadingZero ('-' :: Nat.toDigits 10 n) = false :=
  hasLeadingZero_eq_false head?_isDigit_toDigits
    fun c rest h ↦ absurd h (ne_zero_cons_of_toDigits c rest)

/-- A number is an integer as it is written. -/
theorem int?_text {n : Nat} (h : n < Nat.pow 2 128) :
    Plain.int? (Number.int n).text = some (n : Int) := by
  have hnat := nat?_toDigits n
  have hdigit := head?_isDigit_toDigits (n := n)
  rw [Plain.int?, toList_text, (hasLeadingZero_toDigits n).1]
  obtain ⟨d, rest, hcs⟩ := List.exists_cons_of_ne_nil (Nat.toDigits_ne_nil (n := n) (b := 10))
  rw [hcs] at hnat hdigit ⊢
  have hd : d.isDigit := hdigit d rfl
  have hminus : d ≠ '-' := by
    rintro rfl
    exact absurd hd (by decide)
  have hplus : d ≠ '+' := by
    rintro rfl
    exact absurd hd (by decide)
  simp [hminus, hplus, hnat, h]

/-! ## Typed nodes -/

variable {anchors : List (Nat × Node)}

theorem not_isNull_of_plain {s : String} (h : Style.ofText s = .plain) :
    (s.isEmpty || Plain.isNull s) = false := by
  have hallows := allows_ofText s
  rw [h] at hallows
  have hmeans := hallows.1
  simp only [Style.meansText, Bool.and_eq_true, beq_iff_eq] at hmeans
  by_contra hnull
  rw [Plain.ofText, if_pos (by rwa [Bool.not_eq_false] at hnull)] at hmeans
  exact absurd hmeans.1 (by decide)

theorem textOf_nodeOf (s : String) : textOf anchors (nodeOf (.str s)) = pure s := rfl

/-- A text that was written is never taken for one that is absent. -/
theorem textOf?_nodeOf (s : String) : textOf? anchors (nodeOf (.str s)) = pure (some s) := by
  have hnull : ((Style.ofText s == .plain) && (s.isEmpty || Plain.isNull s)) = false := by
    rw [Bool.and_eq_false_imp, beq_iff_eq]
    exact not_isNull_of_plain
  change (if (Style.ofText s == .plain) && (none == some (coreTag "null")) then _
    else if (Style.ofText s == .plain) && Option.isNone none && (s.isEmpty || Plain.isNull s) then _
    else _ : Resolving (Option String)) = _
  simp [hnull]

theorem boolOf_nodeOf (b : Bool) : boolOf anchors (nodeOf (.bool b)) = pure b := by
  cases b <;> rfl

theorem unsignedOf_nodeOf (n : UInt64) :
    unsignedOf anchors (nodeOf (.int n.toNat)) = pure n := by
  have hn := n.toNat_lt
  have hint : Plain.int? (Number.int n.toNat).text = some (n.toNat : Int) :=
    int?_text (Nat.lt_trans hn (by decide))
  have hsign : (Number.int n.toNat).text.startsWith "-" = false := by
    rw [← Bool.not_eq_true, String.startsWith_string_iff, toList_text]
    rintro ⟨rest, hrest⟩
    have hdigit := Nat.isDigit_of_mem_toDigits (by decide) (by decide)
      (show '-' ∈ Nat.toDigits 10 n.toNat by simp [← hrest])
    exact absurd hdigit (by decide)
  have hrange : 0 ≤ (n.toNat : Int) ∧ (n.toNat : Int) < UInt64.size ∧
      !(Number.int n.toNat).text.startsWith "-" :=
    ⟨Int.natCast_nonneg _, Int.ofNat_lt.mpr hn, by rw [hsign]; rfl⟩
  have htext : plainOf anchors (nodeOf (.int n.toNat)) = pure (Number.int n.toNat).text := rfl
  rw [unsignedOf, htext, pure_bind, hint]
  refine (if_pos hrange).trans ?_
  simp

/-- The entries that members are read as. -/
def entryNodes (members : Json.Members) : List (String × Node) :=
  members.map fun member ↦ (member.1, nodeOf member.2)

theorem entriesOf_nodeOf (members : Json.Members) :
    entriesOf anchors (nodeOf (.obj members)) = pure (entryNodes members) := by
  have hderef : deref anchors (nodeOf (.obj members)) = pure (nodeOf (.obj members)) := rfl
  rw [entriesOf, hderef, pure_bind, nodeOf]
  dsimp only
  induction members with
  | nil => rfl
  | cons member rest ih =>
    rw [memberNodes, List.mapM_cons, ih rfl]
    rfl

end ClusterObjects.Yaml
