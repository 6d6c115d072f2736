import ClusterObjects.Proofs.Decimal.Shortest
import ClusterObjects.Proofs.Json.Contents
import ClusterObjects.Proofs.Yaml.Typed
import ClusterObjects.Yaml.Value

/-!
# Numbers that are read back

The text of a number is a plain scalar that denotes the number. An integer is digits behind at most
a minus sign. A float has a point or an exponent, so it is never taken for an integer, and whatever
layout its shortest digits are written in, the decimal that is read has their value.
-/

namespace ClusterObjects.Yaml

open Decimal (Binary64 Scientific Layout zeros)

/-! ## Decimals with a point or an exponent -/

/-- The digits before the point: at least one, and no zero before another digit. -/
structure IsWhole (whole : List Char) : Prop where
  ne_nil : whole ≠ []
  digits : ∀ c ∈ whole, c.isDigit
  unpadded : whole.head? = some '0' → whole = ['0']

/-- A decimal with a point or an exponent, with the number that its digits make and the power of ten
of the last one. -/
inductive Spells : List Char → Nat → Int → Prop
  | pointed {whole fraction tail : List Char} {power : Int} (hwhole : IsWhole whole)
      (hfraction : ∀ c ∈ fraction, c.isDigit) (htail : Plain.exponent? tail = some power) :
      Spells (whole ++ '.' :: (fraction ++ tail)) (Nat.ofDigitChars 10 (whole ++ fraction) 0)
        (power - fraction.length)
  | scaled {whole tail : List Char} {power : Int} (hwhole : IsWhole whole)
      (htail : Plain.exponent? ('e' :: tail) = some power) :
      Spells (whole ++ 'e' :: tail) (Nat.ofDigitChars 10 whole 0) power

section Reading

variable {cs front back : List Char} {digits : Nat} {power : Int}

theorem span_digits (hfront : ∀ c ∈ front, c.isDigit)
    (hback : ∀ c ∈ back.head?, c.isDigit = false) :
    (front ++ back).takeWhile Char.isDigit = front ∧
      (front ++ back).dropWhile Char.isDigit = back := by
  rw [List.takeWhile_append_of_pos hfront, List.dropWhile_append_of_pos hfront]
  cases back with
  | nil => exact ⟨List.append_nil front, rfl⟩
  | cons c back =>
    have hc : ¬ c.isDigit := by simp [hback c rfl]
    rw [List.takeWhile_cons_of_neg hc, List.dropWhile_cons_of_neg hc, List.append_nil]
    exact ⟨rfl, rfl⟩

theorem head?_of_exponent? {tail : List Char} (h : Plain.exponent? tail = some power) :
    ∀ c ∈ tail.head?, c.isDigit = false := by
  cases tail with
  | nil => exact nofun
  | cons e tail =>
    rintro _ ⟨⟩
    simp only [Plain.exponent?, Bool.or_eq_true, beq_iff_eq] at h
    split at h
    · rename_i he
      obtain rfl | rfl := he <;> rfl
    · exact nomatch h

theorem decimal?_of_spells (negative : Bool) (h : Spells cs digits power) :
    Plain.decimal? negative cs = Binary64.ofDecimal negative digits power := by
  cases h with
  | @pointed whole fraction tail power hwhole hfraction htail =>
    have hdigits : ∀ c ∈ whole ++ fraction, c.isDigit :=
      List.forall_mem_append.mpr ⟨hwhole.digits, hfraction⟩
    have hpoint : ∀ c ∈ ('.' :: (fraction ++ tail)).head?, c.isDigit = false := by
      rintro _ ⟨⟩
      rfl
    obtain ⟨htake, hdrop⟩ := span_digits hwhole.digits hpoint
    obtain ⟨htake', hdrop'⟩ := span_digits hfraction (head?_of_exponent? htail)
    simp only [Plain.decimal?, htake, hdrop, htake', hdrop',
      digits?_eq (List.append_ne_nil_of_left_ne_nil hwhole.ne_nil fraction) hdigits, htail,
      Option.bind_eq_bind, Option.bind_some]
  | @scaled whole tail power hwhole htail =>
    obtain ⟨htake, hdrop⟩ := span_digits hwhole.digits (head?_of_exponent? htail)
    simp [Plain.decimal?, htake, hdrop, digits?_eq hwhole.ne_nil hwhole.digits, htail]

/-- The mark in a decimal keeps it from being an integer. -/
theorem digits?_eq_none {mark : Char} (hmark : mark = '.' ∨ mark = 'e') :
    Plain.digits? 10 (front ++ mark :: back) = none := by
  have hstop (n : Nat) : (do
      let d ← Json.Token.hexValue? mark
      if d < 10 then some (10 * n + d) else none) = none := by
    obtain rfl | rfl := hmark <;> rfl
  rw [Plain.digits?, if_neg (by simp), List.foldlM_append]
  refine Option.bind_eq_none_iff.mpr fun n _ ↦ ?_
  rw [List.foldlM_cons, hstop]
  rfl

/-- What a decimal with a mark looks like. -/
theorem Spells.exists_mark (h : Spells cs digits power) : ∃ whole mark tail,
    cs = whole ++ mark :: tail ∧ IsWhole whole ∧ (mark = '.' ∨ mark = 'e') := by
  cases h with
  | pointed hwhole _ _ => exact ⟨_, _, _, rfl, hwhole, .inl rfl⟩
  | scaled hwhole _ => exact ⟨_, _, _, rfl, hwhole, .inr rfl⟩

theorem Spells.nat?_eq_none (h : Spells cs digits power) : Plain.nat? cs = none := by
  obtain ⟨whole, mark, tail, rfl, hwhole, hmark⟩ := h.exists_mark
  have hbased : Plain.based? (whole ++ mark :: tail) = none := by
    obtain ⟨d, rest, rfl⟩ := List.exists_cons_of_ne_nil hwhole.ne_nil
    by_cases hd : d = '0'
    · obtain rfl : rest = [] := (List.cons.inj (hwhole.unpadded (by rw [hd]; rfl))).2
      obtain rfl | rfl := hmark <;> simp [Plain.based?]
    · simp [Plain.based?, hd]
  rw [Plain.nat?, hbased]
  exact digits?_eq_none hmark

theorem Spells.head?_isDigit (h : Spells cs digits power) :
    ∃ d rest, cs = d :: rest ∧ d.isDigit := by
  obtain ⟨whole, mark, tail, rfl, hwhole, -⟩ := h.exists_mark
  obtain ⟨d, rest, rfl⟩ := List.exists_cons_of_ne_nil hwhole.ne_nil
  exact ⟨d, _, rfl, hwhole.digits d List.mem_cons_self⟩

theorem Spells.hasLeadingZero (h : Spells cs digits power) : Plain.hasLeadingZero cs = false ∧
    Plain.hasLeadingZero ('-' :: cs) = false := by
  obtain ⟨whole, mark, tail, rfl, hwhole, hmark⟩ := h.exists_mark
  obtain ⟨d, rest, rfl⟩ := List.exists_cons_of_ne_nil hwhole.ne_nil
  refine hasLeadingZero_eq_false ?_ fun c rest' heq ↦ ?_
  · rintro _ ⟨⟩
    exact hwhole.digits d List.mem_cons_self
  · rw [List.cons_append, List.cons.injEq] at heq
    obtain rfl : rest = [] := (List.cons.inj (hwhole.unpadded (by rw [heq.1]; rfl))).2
    obtain rfl := (List.cons.inj heq.2).1
    obtain rfl | rfl := hmark <;> rfl

end Reading

/-! ## Writing the shortest digits -/

section Writing

theorem toList_text_neg {n : Nat} (hn : 0 < n) :
    (Number.int (-(n : Int))).text.toList = '-' :: Nat.toDigits 10 n := by
  obtain ⟨m, rfl⟩ := Nat.exists_eq_add_of_le' hn
  change ("-" ++ Nat.repr (m + 1)).toList = _
  simp

theorem exponent?_text (n : Int) :
    Plain.exponent? ('e' :: (Number.int n).text.toList) = some n := by
  have hvalue (m : Nat) : Plain.digits? 10 (Nat.toDigits 10 m) = some m := by
    rw [digits?_eq Nat.toDigits_ne_nil fun c hc ↦
      Nat.isDigit_of_mem_toDigits (by decide) (by decide) hc, Nat.ofDigitChars_ten_toDigits]
  rcases lt_or_ge n 0 with hneg | hnonneg
  · obtain ⟨m, rfl⟩ : ∃ m : Nat, n = -(m : Int) := ⟨n.natAbs, by omega⟩
    rw [toList_text_neg (by omega)]
    simp [Plain.exponent?, hvalue]
  · obtain ⟨m, rfl⟩ := Int.eq_ofNat_of_zero_le hnonneg
    have hdigit := head?_isDigit_toDigits (n := m)
    have hm := hvalue m
    rw [toList_text]
    obtain ⟨d, rest, hcs⟩ := List.exists_cons_of_ne_nil (Nat.toDigits_ne_nil (n := m) (b := 10))
    rw [hcs] at hm hdigit ⊢
    have hminus : d ≠ '-' := by
      rintro rfl
      exact absurd (hdigit _ rfl) (by decide)
    have hplus : d ≠ '+' := by
      rintro rfl
      exact absurd (hdigit _ rfl) (by decide)
    simp [Plain.exponent?, hminus, hplus, hm]

/-- The digits of a number without the zeros at the end. -/
theorem exists_trimmed {n : Nat} (hn : n ≠ 0) : ∃ first rest count,
    ((Nat.toDigits 10 n).reverse.dropWhile (· == '0')).reverse = first :: rest ∧
    Nat.toDigits 10 n = first :: rest ++ zeros count ∧ (∀ c ∈ first :: rest, c.isDigit) ∧
    first ≠ '0' ∧ n = Nat.ofDigitChars 10 (first :: rest) 0 * 10 ^ count := by
  have hsplit : Nat.toDigits 10 n =
      ((Nat.toDigits 10 n).reverse.dropWhile (· == '0')).reverse ++
        ((Nat.toDigits 10 n).reverse.takeWhile (· == '0')).reverse := by
    rw [← List.reverse_append, List.takeWhile_append_dropWhile, List.reverse_reverse]
  have hzeros : ((Nat.toDigits 10 n).reverse.takeWhile (· == '0')).reverse =
      zeros ((Nat.toDigits 10 n).reverse.takeWhile (· == '0')).length := by
    refine List.eq_replicate_iff.mpr ⟨List.length_reverse, fun c hc ↦ ?_⟩
    simpa using List.mem_takeWhile_imp (List.mem_reverse.mp hc)
  rw [hzeros] at hsplit
  generalize ((Nat.toDigits 10 n).reverse.dropWhile (· == '0')).reverse = trimmed at *
  generalize ((Nat.toDigits 10 n).reverse.takeWhile (· == '0')).length = count at *
  have hvalue : n = Nat.ofDigitChars 10 trimmed 0 * 10 ^ count := by
    rw [← Nat.ofDigitChars_ten_toDigits (n := n), hsplit, Nat.ofDigitChars_append, zeros,
      Nat.ofDigitChars_replicate_zero, Nat.mul_comm]
  cases trimmed with
  | nil => exact absurd (hvalue.trans (Nat.zero_mul _)) hn
  | cons first rest =>
    refine ⟨first, rest, count, rfl, hsplit, fun c hc ↦ ?_, ?_, hvalue⟩
    · have hmem : c ∈ Nat.toDigits 10 n := hsplit ▸ List.mem_append_left _ hc
      exact Nat.isDigit_of_mem_toDigits (by decide) (by decide) hmem
    · rintro rfl
      exact head?_toDigits hn (by rw [hsplit]; rfl)

/-- Zeros behind the digits and the power of ten are two ways to write the same value. -/
theorem ofDigitChars_append_zeros (digits : List Char) (count : Nat) :
    Nat.ofDigitChars 10 (digits ++ zeros count) 0 = Nat.ofDigitChars 10 digits 0 * 10 ^ count := by
  rw [Nat.ofDigitChars_append, zeros, Nat.ofDigitChars_replicate_zero, Nat.mul_comm]

theorem ofDigitChars_zeros_append (count : Nat) (digits : List Char) :
    Nat.ofDigitChars 10 (zeros count ++ digits) 0 = Nat.ofDigitChars 10 digits 0 := by
  rw [Nat.ofDigitChars_append, zeros, Nat.ofDigitChars_replicate_zero, Nat.mul_zero]

theorem isDigit_of_mem_zeros {count : Nat} {c : Char} (h : c ∈ zeros count) : c.isDigit := by
  rw [List.eq_of_mem_replicate h]
  rfl

theorem isWhole_cons {first : Char} {rest : List Char} (hdigits : ∀ c ∈ first :: rest, c.isDigit)
    (hfirst : first ≠ '0') : IsWhole (first :: rest) :=
  ⟨List.cons_ne_nil _ _, hdigits, fun h ↦ absurd (Option.some.inj h) hfirst⟩

theorem isDigit_zero : ∀ c ∈ ['0'], c.isDigit := List.all_eq_true.mp rfl

theorem isWhole_zero : IsWhole ['0'] := ⟨List.cons_ne_nil _ _, isDigit_zero, fun _ ↦ rfl⟩

/-- A decimal without an exponent. -/
theorem spells_point {whole fraction : List Char} (hwhole : IsWhole whole)
    (hfraction : ∀ c ∈ fraction, c.isDigit) :
    Spells (whole ++ '.' :: fraction) (Nat.ofDigitChars 10 (whole ++ fraction) 0)
      (-fraction.length) := by
  have h : Spells (whole ++ '.' :: (fraction ++ [])) _ _ := .pointed hwhole hfraction rfl
  rwa [List.append_nil, zero_sub] at h

section Places

variable {first : Char} {rest : List Char}

/-- The point stands before the digits. -/
theorem spells_before (k : Nat) {digits : List Char} (hdigits : ∀ c ∈ digits, c.isDigit) :
    Spells (['0', '.'] ++ zeros k ++ digits) (Nat.ofDigitChars 10 digits 0)
      (-(k + digits.length : Int)) := by
  have hspells := spells_point isWhole_zero (List.forall_mem_append.mpr
    ⟨fun c (hc : c ∈ zeros k) ↦ isDigit_of_mem_zeros hc, hdigits⟩)
  have hvalue : Nat.ofDigitChars 10 (['0'] ++ (zeros k ++ digits)) 0 =
      Nat.ofDigitChars 10 digits 0 := ofDigitChars_zeros_append (k + 1) digits
  rw [hvalue, List.length_append, zeros, List.length_replicate, Nat.cast_add] at hspells
  exact hspells

/-- The point stands among the digits. -/
theorem spells_among {k : Nat} (hdigits : ∀ c ∈ first :: rest, c.isDigit) (hfirst : first ≠ '0')
    (hpos : 0 < k) (hk : k ≤ rest.length) :
    Spells ((first :: rest).take k ++ zeros (k - ((first :: rest).take k).length) ++
      '.' :: (first :: rest).drop k) (Nat.ofDigitChars 10 (first :: rest) 0)
      (k - (rest.length + 1)) := by
  obtain ⟨m, rfl⟩ : ∃ m, k = m + 1 := ⟨k - 1, by omega⟩
  have hwhole : IsWhole ((first :: rest).take (m + 1)) :=
    isWhole_cons (fun c hc ↦ hdigits c (List.mem_of_mem_take (i := m + 1) hc)) hfirst
  have hfraction : ∀ c ∈ (first :: rest).drop (m + 1), c.isDigit :=
    fun c hc ↦ hdigits c (List.mem_of_mem_drop hc)
  have hspells := spells_point hwhole hfraction
  have hlength : ((first :: rest).take (m + 1)).length = m + 1 := by simp; omega
  have hpower : -(((first :: rest).drop (m + 1)).length : Int) =
      ((m + 1 : Nat) : Int) - (rest.length + 1) := by
    rw [List.length_drop, List.length_cons]
    omega
  rw [hpower, List.take_append_drop] at hspells
  rwa [hlength, Nat.sub_self, zeros, List.replicate_zero, List.append_nil]

/-- The point stands behind the digits. -/
theorem spells_behind {k : Nat} (hdigits : ∀ c ∈ first :: rest, c.isDigit) (hfirst : first ≠ '0')
    (hk : rest.length < k) :
    Spells ((first :: rest).take k ++ zeros (k - ((first :: rest).take k).length) ++ ['.', '0'])
      (Nat.ofDigitChars 10 (first :: rest) 0 * 10 ^ (k - rest.length)) (-1) := by
  have hwhole : IsWhole (first :: (rest ++ zeros (k - (rest.length + 1)))) :=
    isWhole_cons (List.forall_mem_append.mpr ⟨hdigits, fun c ↦ isDigit_of_mem_zeros⟩) hfirst
  have hspells := spells_point hwhole isDigit_zero
  have hvalue :
      Nat.ofDigitChars 10 (first :: (rest ++ zeros (k - (rest.length + 1))) ++ ['0']) 0 =
        Nat.ofDigitChars 10 (first :: rest) 0 * 10 ^ (k - rest.length) := by
    rw [show k - rest.length = k - (rest.length + 1) + 1 by omega, ← ofDigitChars_append_zeros,
      zeros, zeros, List.replicate_succ', List.cons_append, List.append_assoc, List.cons_append]
  rw [hvalue] at hspells
  rwa [List.take_of_length_le hk]

end Places

/-- Digits that are not zero, in any layout with a point. -/
theorem spells_write {layout : Layout} (hpointed : layout.pointed = true) {v : Scientific}
    (hv : v.digits ≠ 0) : ∃ digits power, Spells (layout.write v) digits power ∧
      (digits : ℚ) * 10 ^ power = v.digits * 10 ^ v.power := by
  obtain ⟨first, rest, count, htrimmed, hall, hdigits, hfirst, hvalue⟩ := exists_trimmed hv
  have hten : (10 : ℚ) ≠ 0 := by norm_num
  have hsame : (v.digits : ℚ) * 10 ^ v.power =
      Nat.ofDigitChars 10 (first :: rest) 0 * 10 ^ (count + v.power : Int) := calc
    (v.digits : ℚ) * 10 ^ v.power =
        Nat.ofDigitChars 10 (first :: rest) 0 * 10 ^ count * 10 ^ v.power := by
      rw [hvalue, Nat.cast_mul, Nat.cast_pow, Nat.cast_ofNat]
    _ = Nat.ofDigitChars 10 (first :: rest) 0 * 10 ^ (count + v.power : Int) := by
      rw [mul_assoc, zpow_add₀ hten, zpow_natCast]
  have hlength : (Nat.toDigits 10 v.digits).length = rest.length + 1 + count := by
    rw [hall, List.length_append, List.length_cons, zeros, List.length_replicate]
  have hone : IsWhole [first] :=
    isWhole_cons (by simpa using hdigits first List.mem_cons_self) hfirst
  have hrest : ∀ c ∈ rest, c.isDigit := fun c hc ↦ hdigits c (List.mem_cons_of_mem _ hc)
  rw [hsame]
  unfold Layout.write
  simp only [htrimmed, hlength, hpointed]
  generalize hpoint : ((rest.length + 1 + count : Nat) + v.power : Int) = point
  rw [show (count + v.power : Int) = point - (rest.length + 1) by omega]
  split_ifs with hrange hsmall hfraction hshort
  · refine ⟨_, _, spells_before (-point).toNat hdigits, ?_⟩
    rw [List.length_cons]
    congr 2
    omega
  · have hlt : point.toNat < (first :: rest).length := by simpa using hfraction
    refine ⟨_, _, spells_among hdigits hfirst (by omega) (Nat.le_of_lt_succ hlt), ?_⟩
    rw [Int.toNat_of_nonneg (by omega)]
  · have hle : (rest.length : Int) + 1 ≤ point := by simpa using hfraction
    refine ⟨_, _, spells_behind hdigits hfirst (show rest.length < point.toNat by omega), ?_⟩
    rw [Nat.cast_mul, Nat.cast_pow, Nat.cast_ofNat, ← zpow_natCast, mul_assoc, ← zpow_add₀ hten]
    congr 2
    omega
  · obtain rfl : rest = [] := by simpa using hshort
    refine ⟨_, _, .scaled hone (exponent?_text _), ?_⟩
    rw [List.length_nil, Nat.cast_zero, zero_add]
  · refine ⟨_, _, .pointed hone hrest (exponent?_text _), ?_⟩
    rw [sub_sub, add_comm (1 : Int)]
    rfl

/-- Zero is written the same way in any power of ten. -/
theorem write_zero {v : Scientific} (hv : v.digits = 0) :
    Number.layout.write v = ['0', '.', '0'] := by
  rw [Layout.write, hv]
  rfl

end Writing

/-! ## What the text of a number denotes -/

/-- The words that are no numbers, though nothing sets them apart from other plain scalars. -/
def keywords : List String :=
  ["", "null", "Null", "NULL", "~", "true", "True", "TRUE", "false", "False", "FALSE",
    ".nan", ".NaN", ".NAN"]

section Denoting

variable {s : String} {cs : List Char} {digits : Nat} {power : Int}

/-- How the text of a number begins. -/
def LeadsNumber (cs : List Char) : Prop := ∃ d rest, cs = d :: rest ∧ (d.isDigit || d == '-') = true

theorem LeadsNumber.not_mem_keywords (h : LeadsNumber s.toList) : s ∉ keywords := by
  obtain ⟨d, rest, hs, hd⟩ := h
  have hwords : keywords.all fun word ↦
      !word.toList.head?.any fun c ↦ c.isDigit || c == '-' := by decide
  intro hmem
  have hword := List.all_eq_true.mp hwords s hmem
  rw [hs, List.head?_cons, Option.any_some, hd] at hword
  exact nomatch hword

theorem ofText_of_int? {n : Int} (hlead : LeadsNumber s.toList) (h : Plain.int? s = some n) :
    Plain.ofText s = .int n := by
  have hwords := hlead.not_mem_keywords
  simp only [keywords, List.mem_cons, List.not_mem_nil, or_false, not_or] at hwords
  simp [Plain.ofText, Plain.isNull, Plain.bool?, hwords, h]

theorem ofText_of_float? {x : Option Binary64} (hlead : LeadsNumber s.toList)
    (hint : Plain.int? s = none) (hzero : Plain.hasLeadingZero s.toList = false)
    (h : Plain.float? s = some x) : Plain.ofText s = .float x := by
  have hwords := hlead.not_mem_keywords
  simp only [keywords, List.mem_cons, List.not_mem_nil, or_false, not_or] at hwords
  simp [Plain.ofText, Plain.isNull, Plain.bool?, hwords, hint, hzero, h]

theorem leadsNumber_toDigits (n : Nat) : LeadsNumber (Nat.toDigits 10 n) := by
  obtain ⟨d, rest, hcs⟩ := List.exists_cons_of_ne_nil (Nat.toDigits_ne_nil (n := n) (b := 10))
  have hd := head?_isDigit_toDigits (n := n) d (by rw [hcs]; rfl)
  exact ⟨d, rest, hcs, by rw [hd]; rfl⟩

theorem leadsNumber_text (n : Int) : LeadsNumber (Number.int n).text.toList := by
  rcases lt_or_ge n 0 with hneg | hnonneg
  · obtain ⟨m, rfl⟩ : ∃ m : Nat, n = -(m : Int) := ⟨n.natAbs, by omega⟩
    rw [toList_text_neg (by omega)]
    exact ⟨'-', _, rfl, rfl⟩
  · obtain ⟨m, rfl⟩ := Int.eq_ofNat_of_zero_le hnonneg
    rw [toList_text]
    exact leadsNumber_toDigits m

theorem int?_text_neg {n : Nat} (hn : 0 < n) (h : n ≤ Nat.pow 2 127) :
    Plain.int? (Number.int (-(n : Int))).text = some (-(n : Int)) := by
  rw [Plain.int?, toList_text_neg hn, (hasLeadingZero_toDigits n).2]
  simp [nat?_toDigits, h]

/-- The bounds are where integers of 64 bits end. -/
theorem ofText_int {n : Int} (hn : (Number.int n).Fits) :
    Plain.ofText (Number.int n).text = .int n := by
  obtain ⟨hlow, hhigh⟩ := hn
  refine ofText_of_int? (leadsNumber_text n) ?_
  rcases lt_or_ge n 0 with hneg | hnonneg
  · obtain ⟨m, rfl⟩ : ∃ m : Nat, n = -(m : Int) := ⟨n.natAbs, by omega⟩
    exact int?_text_neg (by omega) (Nat.le_trans (show m ≤ 2 ^ 63 by omega) (by decide))
  · obtain ⟨m, rfl⟩ := Int.eq_ofNat_of_zero_le hnonneg
    exact int?_text (Nat.lt_trans (Int.ofNat_lt.mp hhigh) (by decide))

/-- A decimal with a mark, with or without a minus sign. -/
theorem ofText_of_spells {negative : Bool} {x : Binary64}
    (hs : s.toList = (if negative then ['-'] else []) ++ cs) (hspells : Spells cs digits power)
    (hx : Binary64.ofDecimal negative digits power = some x) :
    Plain.ofText s = .float (some x) := by
  obtain ⟨d, rest, hcs, hd⟩ := hspells.head?_isDigit
  have hnone := hspells.nat?_eq_none
  have hdecimal := (decimal?_of_spells negative hspells).trans hx
  have hzero := hspells.hasLeadingZero
  rw [hcs] at hs hnone hdecimal hzero
  have hminus : d ≠ '-' := by
    rintro rfl
    exact absurd hd (by decide)
  have hplus : d ≠ '+' := by
    rintro rfl
    exact absurd hd (by decide)
  have hinfinite : ([".inf", ".Inf", ".INF"].any fun word ↦ word.toList == d :: rest) = false := by
    have hdot : ∀ word ∈ [".inf", ".Inf", ".INF"], word.toList.head? = some '.' := by decide
    refine List.any_eq_false.mpr fun word hword heq ↦ ?_
    obtain rfl : d = '.' := by simpa [beq_iff_eq.mp heq] using hdot word hword
    exact absurd hd (by decide)
  have hlead : LeadsNumber s.toList := by
    rw [hs]
    cases negative
    · exact ⟨d, rest, rfl, by rw [hd]; rfl⟩
    · exact ⟨'-', _, rfl, rfl⟩
  have hwords := hlead.not_mem_keywords
  simp only [keywords, List.mem_cons, List.not_mem_nil, or_false, not_or] at hwords
  cases negative
  · refine ofText_of_float? hlead ?_ (hs ▸ hzero.1) ?_
    · simp [Plain.int?, hs, hzero, hminus, hplus, hnone]
    · simp [Plain.float?, hs, hwords, hminus, hplus, hinfinite, hdecimal]
  · refine ofText_of_float? hlead ?_ (hs ▸ hzero.2) ?_
    · simp [Plain.int?, hs, hzero, hnone]
    · simp [Plain.float?, hs, hwords, hinfinite, hdecimal]

theorem toList_text_float (x : Binary64) : (Number.float x).text.toList =
    (if x.negative then ['-'] else []) ++ Number.layout.write x.shortest := String.toList_ofList

theorem ofText_float {x : Binary64} (hx : x.Normalized) :
    Plain.ofText (Number.float x).text = .float (some x) := by
  rcases Nat.eq_zero_or_pos x.significand with hzero | hpos
  · have hspells : Spells ['0', '.', '0'] 0 (-1) :=
      spells_point isWhole_zero isDigit_zero
    have hshortest : Number.layout.write x.shortest = ['0', '.', '0'] := by
      rw [Binary64.shortest, if_pos (by simpa [Binary64.isZero] using hzero)]
      exact write_zero rfl
    have hx' : x = .zero x.negative := by
      obtain ⟨negative, significand, exponent⟩ := x
      obtain rfl : significand = 0 := hzero
      obtain rfl : exponent = 0 := hx.exponent_eq_zero (Nat.pow_pos (by decide))
      rfl
    refine ofText_of_spells ((toList_text_float x).trans (by rw [hshortest])) hspells ?_
    rw [hx']
    rfl
  · have hcovers := Binary64.shortest_covers hx hpos
    obtain ⟨digits, power, hspells, hvalue⟩ :=
      spells_write (show Number.layout.pointed = true from rfl) (hcovers.range hx hpos).1
    rw [← hvalue] at hcovers
    exact ofText_of_spells (toList_text_float x) hspells (Binary64.ofDecimal_eq hx hpos hcovers)

/-- A number is read as the number that it was. -/
theorem plainJson?_text {n : Number} (hn : n.Fits) : plainJson? n.text = some (.num n) := by
  cases n with
  | int n =>
    rw [plainJson?, ofText_int hn]
    exact if_pos hn
  | float x =>
    rw [plainJson?, ofText_float hn]
    rfl

end Denoting

end ClusterObjects.Yaml
