import ClusterObjects.Text.Encoding
import Mathlib.Tactic.SplitIfs

/-!
# Texts shown as they are

Of the bytes of a text nothing is lost when they are shown: every character is read back from its
bytes, whatever follows them.
-/

namespace ClusterObjects.Text

theorem charsFrom_cons (begun : Option Begun) (b : UInt8) (rest : List UInt8) :
    charsFrom begun (b :: rest) =
      (goOn begun b.toNat).1 ++ charsFrom (goOn begun b.toNat).2 rest := rfl

/-! ## One byte -/

theorem charsFrom_one {b : Nat} (hb : b < 0x80) (rest : List UInt8) :
    charsFrom none (UInt8.ofNat b :: rest) = Char.ofNat b :: charsFrom none rest := by
  rw [charsFrom_cons, UInt8.toNat_ofNat', Nat.mod_eq_of_lt (by omega)]
  simp only [goOn, startWith, if_pos hb]
  rfl

theorem charsFrom_first_of_two {b : Nat} (hlow : 0xC2 ≤ b) (hhigh : b < 0xE0)
    (rest : List UInt8) : charsFrom none (UInt8.ofNat b :: rest) =
      charsFrom (some ⟨b % 0x20, [(0x80, 0xBF)]⟩) rest := by
  rw [charsFrom_cons, UInt8.toNat_ofNat', Nat.mod_eq_of_lt (by omega)]
  simp only [goOn, startWith, if_neg (show ¬ b < 0x80 by omega), if_pos (And.intro hlow hhigh)]
  rfl

theorem charsFrom_first_of_three {b : Nat} (hlow : 0xE0 ≤ b) (hhigh : b < 0xF0)
    (rest : List UInt8) : charsFrom none (UInt8.ofNat b :: rest) =
      charsFrom (some ⟨b % 0x10, [(if b = 0xE0 then 0xA0 else 0x80,
        if b = 0xED then 0x9F else 0xBF), (0x80, 0xBF)]⟩) rest := by
  rw [charsFrom_cons, UInt8.toNat_ofNat', Nat.mod_eq_of_lt (by omega)]
  simp only [goOn, startWith, if_neg (show ¬ b < 0x80 by omega),
    if_neg (show ¬ (0xC2 ≤ b ∧ b < 0xE0) by omega), if_pos (And.intro hlow hhigh)]
  rfl

theorem charsFrom_first_of_four {b : Nat} (hlow : 0xF0 ≤ b) (hhigh : b < 0xF5)
    (rest : List UInt8) : charsFrom none (UInt8.ofNat b :: rest) =
      charsFrom (some ⟨b % 0x08, [(if b = 0xF0 then 0x90 else 0x80,
        if b = 0xF4 then 0x8F else 0xBF), (0x80, 0xBF), (0x80, 0xBF)]⟩) rest := by
  rw [charsFrom_cons, UInt8.toNat_ofNat', Nat.mod_eq_of_lt (by omega)]
  simp only [goOn, startWith, if_neg (show ¬ b < 0x80 by omega),
    if_neg (show ¬ (0xC2 ≤ b ∧ b < 0xE0) by omega),
    if_neg (show ¬ (0xE0 ≤ b ∧ b < 0xF0) by omega), if_pos (And.intro hlow hhigh)]
  rfl

theorem charsFrom_last {number low high b : Nat} (hlow : low ≤ b) (hhigh : b ≤ high)
    (hb : b < 256) (rest : List UInt8) :
    charsFrom (some ⟨number, [(low, high)]⟩) (UInt8.ofNat b :: rest) =
      Char.ofNat (0x40 * number + b % 0x40) :: charsFrom none rest := by
  rw [charsFrom_cons, UInt8.toNat_ofNat', Nat.mod_eq_of_lt hb]
  simp only [goOn, if_pos (And.intro hlow hhigh)]
  rfl

theorem charsFrom_middle {number low high b : Nat} (hlow : low ≤ b) (hhigh : b ≤ high)
    (hb : b < 256) (next : Nat × Nat) (due : List (Nat × Nat)) (rest : List UInt8) :
    charsFrom (some ⟨number, (low, high) :: next :: due⟩) (UInt8.ofNat b :: rest) =
      charsFrom (some ⟨0x40 * number + b % 0x40, next :: due⟩) rest := by
  rw [charsFrom_cons, UInt8.toNat_ofNat', Nat.mod_eq_of_lt hb]
  simp only [goOn, if_pos (And.intro hlow hhigh)]
  rfl

/-! ## One character -/

theorem charsFrom_utf8EncodeChar (c : Char) (rest : List UInt8) :
    charsFrom none (String.utf8EncodeChar c ++ rest) = c :: charsFrom none rest := by
  have hvalid : c.val.toNat < 0xD800 ∨ 0xDFFF < c.val.toNat ∧ c.val.toNat < 0x110000 := c.valid
  suffices h : charsFrom none (String.utf8EncodeChar c ++ rest) =
      Char.ofNat c.val.toNat :: charsFrom none rest from
    h.trans (congrArg (· :: _) (Char.ofNat_toNat c))
  unfold String.utf8EncodeChar
  dsimp only
  generalize c.val.toNat = v at hvalid ⊢
  split_ifs with hone htwo hthree
  · exact charsFrom_one (by omega) rest
  · simp only [List.cons_append, List.nil_append]
    rw [charsFrom_first_of_two (by omega) (by omega),
      charsFrom_last (by omega) (by omega) (by omega)]
    congr 2
    omega
  · simp only [List.cons_append, List.nil_append]
    rw [charsFrom_first_of_three (by omega) (by omega),
      charsFrom_middle (by split <;> omega) (by split <;> omega) (by omega),
      charsFrom_last (by omega) (by omega) (by omega)]
    congr 2
    omega
  · simp only [List.cons_append, List.nil_append]
    rw [charsFrom_first_of_four (by omega) (by omega),
      charsFrom_middle (by split <;> omega) (by split <;> omega) (by omega),
      charsFrom_middle (by omega) (by omega) (by omega),
      charsFrom_last (by omega) (by omega) (by omega)]
    congr 2
    omega

/-- A text is shown as it is. -/
theorem decodeLossy_bytesOf (cs : List Char) : decodeLossy (bytesOf cs) = String.ofList cs := by
  unfold decodeLossy bytesOf
  congr 1
  induction cs with
  | nil => rfl
  | cons c cs ih => rw [List.flatMap_cons, charsFrom_utf8EncodeChar, ih]

end ClusterObjects.Text
