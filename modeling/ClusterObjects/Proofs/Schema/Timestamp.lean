import ClusterObjects.Schema.Timestamp
import Mathlib.Data.List.TakeWhile

/-!
# Points in time, written and read again

The text of a point in time names that point: reading takes the numbers back out of the text one
after another, in universal time and without a fraction. What reading gives is always a point that
the calendar has, so a text that was read and written once stays as it is.
-/

namespace ClusterObjects.Timestamp

/-! ## Numbers -/

theorem decimalValue_eq (digits : List Char) :
    Numeral.decimalValue digits = Nat.ofDigitChars 10 digits 0 := rfl

theorem isSpace_of_isDigit {c : Char} (h : c.isDigit = true) : isSpace c = false := by
  simp only [Char.isDigit, Bool.and_eq_true, decide_eq_true_eq, UInt32.le_iff_toNat_le] at h
  have hbounds : 48 ≤ c.toNat ∧ c.toNat ≤ 57 := h
  unfold isSpace
  generalize c.toNat = n at hbounds
  simp
  omega

theorem toList_padded (width n : Nat) :
    (padded width n).toList =
      List.replicate (width - (Nat.toDigits 10 n).length) '0' ++ Nat.toDigits 10 n :=
  String.toList_ofList

theorem isDigit_of_mem_padded {width n : Nat} {c : Char} (h : c ∈ (padded width n).toList) :
    c.isDigit = true := by
  rw [toList_padded] at h
  rcases List.mem_append.1 h with hzero | hdigit
  · rw [List.eq_of_mem_replicate hzero]
    rfl
  · exact Nat.isDigit_of_mem_toDigits (by omega) (by omega) hdigit

theorem padded_ne_nil (width n : Nat) : (padded width n).toList ≠ [] := by
  rw [toList_padded]
  simp [Nat.toDigits_ne_nil]

theorem decimalValue_padded (width n : Nat) :
    Numeral.decimalValue (padded width n).toList = n := by
  rw [decimalValue_eq, toList_padded, Nat.ofDigitChars_append, Nat.ofDigitChars_replicate_zero,
    Nat.mul_zero, Nat.ofDigitChars_ten_toDigits]

theorem length_padded {width n : Nat} (hwidth : 0 < width) (h : n < Nat.pow 10 width) :
    (padded width n).toList.length = width := by
  have hdigits := (Nat.length_toDigits_le_iff (by omega) hwidth).2 h
  rw [toList_padded, List.length_append, List.length_replicate]
  omega

/-- A number ends at its width, or where no digit follows. -/
theorem number?_padded {width n : Nat} (limit : Nat) (rest : List Char)
    (hfits : (padded width n).toList.length ≤ limit)
    (hends : (padded width n).toList.length = limit ∨ ∀ c ∈ rest.head?, c.isDigit = false) :
    number? limit ((padded width n).toList ++ rest) = some (n, rest) := by
  have hvalue := decimalValue_padded width n
  have hdigits : ∀ c ∈ (padded width n).toList, c.isDigit = true :=
    fun c hc ↦ isDigit_of_mem_padded hc
  have hne := padded_ne_nil width n
  generalize (padded width n).toList = digits at *
  have hspace : skipSpace (digits ++ rest) = digits ++ rest := by
    cases digits with
    | nil => exact absurd rfl hne
    | cons c cs => simp [skipSpace, isSpace_of_isDigit (hdigits c List.mem_cons_self)]
  have htaken : ((digits ++ rest).take limit).takeWhile Char.isDigit = digits := by
    rw [List.take_append, List.take_of_length_le hfits, List.takeWhile_append_of_pos hdigits]
    rcases hends with hends | hends
    · simp [hends]
    · cases rest with
      | nil => simp
      | cons c cs =>
        cases limit - digits.length with
        | zero => simp
        | succ count => simp [hends c rfl]
  unfold number?
  simp [hspace, htaken, hvalue, hne]

/-- A number of two digits is read up to its second digit, whatever follows. -/
theorem number?_two {n : Nat} (h : n < 100) (rest : List Char) :
    number? 2 ((padded 2 n).toList ++ rest) = some (n, rest) := by
  have hlength : (padded 2 n).toList.length = 2 := length_padded (by omega) h
  exact number?_padded 2 rest hlength.le (.inl hlength)

/-! ## Years -/

theorem year?_of_digit {c : Char} (h : c.isDigit = true) (cs : List Char) :
    year? (c :: cs) = (number? 4 (c :: cs)).map fun (n, rest) ↦ ((n : Int), rest) := by
  have hminus : c ≠ '-' := by
    rintro rfl
    exact absurd h (by decide)
  have hplus : c ≠ '+' := by
    rintro rfl
    exact absurd h (by decide)
  have hspace : skipSpace (c :: cs) = c :: cs := by simp [skipSpace, isSpace_of_isDigit h]
  unfold year?
  rw [hspace]
  split
  · exact absurd (List.cons.inj ‹_›).1 hminus
  · exact absurd (List.cons.inj ‹_›).1 hplus
  · rfl

theorem head?_padded_isDigit (width n : Nat) (rest : List Char) :
    (((padded width n).toList ++ rest).head?.any Char.isDigit) = true := by
  have hdigits : ∀ c ∈ (padded width n).toList, c.isDigit = true :=
    fun c hc ↦ isDigit_of_mem_padded hc
  cases hlist : (padded width n).toList with
  | nil => exact absurd hlist (padded_ne_nil width n)
  | cons c cs =>
    rw [hlist] at hdigits
    simpa using hdigits c List.mem_cons_self

/-- Behind a sign a year has as many digits as there are. -/
theorem number?_signed (n : Nat) {rest : List Char}
    (h : ∀ c ∈ rest.head?, c.isDigit = false) :
    number? ((padded 4 n).toList ++ rest).length ((padded 4 n).toList ++ rest) =
      some (n, rest) :=
  number?_padded _ rest (by simp) (.inr h)

theorem year?_yearText (year : Int) {rest : List Char}
    (h : ∀ c ∈ rest.head?, c.isDigit = false) :
    year? ((yearText year).toList ++ rest) = some (year, rest) := by
  unfold yearText
  by_cases hshort : 0 ≤ year ∧ year ≤ 9999
  · obtain ⟨n, rfl⟩ := Int.eq_ofNat_of_zero_le hshort.1
    have hfour : n < 10000 := by omega
    have hlength : (padded 4 n).toList.length = 4 := length_padded (by omega) hfour
    have hnumber := number?_padded 4 rest hlength.le (.inl hlength)
    rw [if_pos hshort, Int.toNat_natCast]
    cases hlist : (padded 4 n).toList with
    | nil => exact absurd hlist (padded_ne_nil 4 n)
    | cons c cs =>
      have hdigit : c.isDigit = true := isDigit_of_mem_padded (hlist ▸ List.mem_cons_self)
      rw [hlist] at hnumber
      rw [List.cons_append, year?_of_digit hdigit, ← List.cons_append, hnumber]
      rfl
  · rw [if_neg hshort]
    by_cases hpositive : 0 ≤ year
    · obtain ⟨n, rfl⟩ := Int.eq_ofNat_of_zero_le hpositive
      have hsign : skipSpace ('+' :: ((padded 4 n).toList ++ rest)) =
          '+' :: ((padded 4 n).toList ++ rest) := rfl
      rw [if_pos hpositive, Int.toNat_natCast, String.toList_append]
      change year? ('+' :: ((padded 4 n).toList ++ rest)) = _
      unfold year?
      rw [hsign]
      simp only [head?_padded_isDigit, if_true, number?_signed n h, Option.map_some]
    · obtain ⟨n, hn⟩ := Int.eq_ofNat_of_zero_le (a := -year) (by omega)
      have hsign : skipSpace ('-' :: ((padded 4 n).toList ++ rest)) =
          '-' :: ((padded 4 n).toList ++ rest) := rfl
      rw [if_neg hpositive, hn, Int.toNat_natCast, String.toList_append]
      change year? ('-' :: ((padded 4 n).toList ++ rest)) = _
      unfold year?
      rw [hsign]
      simp only [head?_padded_isDigit, if_true, number?_signed n h, Option.map_some]
      simp [← hn]

/-! ## Whole texts -/

theorem after?_of_not_isSpace {c : Char} (h : isSpace c = false) (rest : List Char) :
    after? c (c :: rest) = some rest := by
  have hspace : skipSpace (c :: rest) = c :: rest := by simp [skipSpace, h]
  unfold after?
  rw [hspace]
  exact if_pos rfl

theorem daysInMonth_le (year : Int) (month : Nat) : daysInMonth year month ≤ 31 := by
  unfold daysInMonth
  split
  · split <;> omega
  all_goals omega

theorem toUniversal_zero {t : Timestamp} (h : t.isValid = true) : t.toUniversal 0 = t := by
  simp only [isValid, Bool.and_eq_true, decide_eq_true_eq] at h
  have hhour : (((t.hour : Int) * 60 + t.minute - 0) / 60).toNat = t.hour := by omega
  have hminute : (((t.hour : Int) * 60 + t.minute - 0) % 60).toNat = t.minute := by omega
  unfold toUniversal
  dsimp only
  rw [if_neg (by omega), if_neg (by omega), hhour, hminute]

theorem toList_text (t : Timestamp) :
    t.text.toList = (yearText t.year).toList ++ '-' :: ((padded 2 t.month).toList ++
      '-' :: ((padded 2 t.day).toList ++ 'T' :: ((padded 2 t.hour).toList ++
        ':' :: ((padded 2 t.minute).toList ++ ':' :: ((padded 2 t.second).toList ++ ['Z']))))) := by
  simp [text, String.toList_append]

/-- A point that the calendar has is read back out of its text. -/
theorem parse?_text {t : Timestamp} (h : t.isValid = true) : parse? t.text = some t := by
  have huniversal := toUniversal_zero h
  have hbounds := h
  simp only [isValid, Bool.and_eq_true, decide_eq_true_eq] at hbounds
  have hlast := daysInMonth_le t.year t.month
  have hdash (rest : List Char) : after? '-' ('-' :: rest) = some rest :=
    after?_of_not_isSpace (by decide) rest
  have hcolon (rest : List Char) : after? ':' (':' :: rest) = some rest :=
    after?_of_not_isSpace (by decide) rest
  have hletter (rest : List Char) : afterLetter? ('T' :: rest) = some rest := rfl
  have hend : skipFraction ['Z'] = some ['Z'] := rfl
  have hzone : zone? (skipSpace ['Z']) = some (0, []) := rfl
  have hmonth := number?_two (n := t.month) (by omega)
  have hday := number?_two (n := t.day) (by omega)
  have hhour := number?_two (n := t.hour) (by omega)
  have hminute := number?_two (n := t.minute) (by omega)
  have hsecond := number?_two (n := t.second) (by omega)
  unfold parse?
  rw [toList_text, year?_yearText t.year (by simp)]
  simp only [Option.bind_eq_bind, Option.bind_some, hdash, hcolon, hletter, hmonth, hday, hhour,
    hminute, hsecond, hend, hzone, huniversal, h]
  rfl

/-- The last step of reading refuses points that the calendar does not have. -/
theorem isValid_of_parse? {text : String} {t : Timestamp} (h : parse? text = some t) :
    t.isValid = true := by
  unfold parse? at h
  simp only [Option.bind_eq_bind, Option.bind_eq_some_iff] at h
  obtain ⟨_, -, _, -, _, -, _, -, _, -, _, -, _, -, _, -, _, -, _, -, _, -, _, -, _, -, h⟩ := h
  obtain ⟨hvalid, heq⟩ := (Option.ite_none_right_eq_some ..).1 h
  obtain rfl := Option.some.inj heq
  exact (Bool.and_eq_true _ _ ▸ hvalid).2

end ClusterObjects.Timestamp
