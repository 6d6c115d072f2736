import ClusterObjects.Proofs.Text.Encoding
import ClusterObjects.Text.Query
import Mathlib.Data.List.Basic

/-!
# Queries are read as they were written

Encoded pairs hold no ampersand, hash or equals sign of their own, and every byte is read back from
its escape. So the pairs of a query are what is read of it, and behind other text they are read
beside what that text spells.
-/

namespace ClusterObjects.Text.Query

/-! ## Bytes -/

/-- A byte is written as a plus sign, as a character of its own or as an escape. -/
theorem encodeByte_cases (b : UInt8) :
    (b = 0x20 ∧ encodeByte b = ['+']) ∨
      (∃ c, encodeByte b = [c] ∧ c ≠ '+' ∧ c ≠ '%' ∧ String.utf8EncodeChar c = [b]) ∨
      ∃ high low, encodeByte b = ['%', high, low] ∧
        Json.Token.hexNumber? [high, low] = some b.toNat := by
  have hplain : (List.range 256).all (fun n ↦ !isPlain (UInt8.ofNat n) ||
      (Char.ofNat n != '+' && Char.ofNat n != '%' &&
        String.utf8EncodeChar (Char.ofNat n) == [UInt8.ofNat n])) = true := by
    decide +kernel
  have hhex : (List.range 256).all (fun n ↦
      Json.Token.hexNumber? ((hexByte (UInt8.ofNat n)).drop 1) == some n) = true := by
    decide +kernel
  have hmem : b.toNat ∈ List.range 256 := List.mem_range.mpr b.toNat_lt
  unfold encodeByte
  split_ifs with hspace hown
  · exact .inl ⟨beq_iff_eq.mp hspace, rfl⟩
  · have h := List.all_eq_true.mp hplain _ hmem
    rw [UInt8.ofNat_toNat, hown] at h
    simp only [Bool.not_true, Bool.false_or, Bool.and_eq_true, bne_iff_ne, beq_iff_eq] at h
    exact .inr (.inl ⟨_, rfl, h.1.1, h.1.2, h.2⟩)
  · have h := List.all_eq_true.mp hhex _ hmem
    rw [UInt8.ofNat_toNat, beq_iff_eq] at h
    exact .inr (.inr ⟨_, _, rfl, h⟩)

theorem decodeBytes_encodeByte (b : UInt8) (rest : List Char) :
    decodeBytes (encodeByte b ++ rest) = b :: decodeBytes rest := by
  rcases encodeByte_cases b with ⟨rfl, heq⟩ | ⟨c, heq, hplus, hpercent, hbytes⟩ |
    ⟨high, low, heq, hnumber⟩
  · rw [heq, List.singleton_append, decodeBytes]
  · rw [heq, List.singleton_append, decodeBytes, hbytes, List.singleton_append]
    · exact hplus
    · exact fun _ _ _ h ↦ absurd h hpercent
  · rw [heq, List.cons_append, List.cons_append, List.singleton_append, decodeBytes, hnumber]
    exact congrArg (· :: _) UInt8.ofNat_toNat

theorem decodeBytes_flatMap_encodeByte (bytes : List UInt8) :
    decodeBytes (bytes.flatMap encodeByte) = bytes := by
  induction bytes with
  | nil => rw [List.flatMap_nil, decodeBytes]
  | cons b bytes ih => rw [List.flatMap_cons, decodeBytes_encodeByte, ih]

theorem decodeText_encodeText (s : String) : decodeText (encodeText s) = s := by
  unfold decodeText encodeText
  rw [decodeBytes_flatMap_encodeByte, decodeLossy_bytesOf, String.ofList_toList]

theorem encodeByte_clean (b : UInt8) : ∀ c ∈ encodeByte b, c ≠ '&' ∧ c ≠ '#' ∧ c ≠ '=' := by
  have hall : (List.range 256).all (fun n ↦ (encodeByte (UInt8.ofNat n)).all
      fun c ↦ c != '&' && c != '#' && c != '=') = true := by
    decide +kernel
  intro c hc
  have hb := List.all_eq_true.1 hall b.toNat (List.mem_range.2 b.toNat_lt)
  rw [UInt8.ofNat_toNat] at hb
  simpa [and_assoc] using List.all_eq_true.1 hb c hc

theorem encodeText_clean (s : String) : ∀ c ∈ encodeText s, c ≠ '&' ∧ c ≠ '#' ∧ c ≠ '=' := by
  intro c hc
  obtain ⟨b, -, hb⟩ := List.mem_flatMap.1 hc
  exact encodeByte_clean b c hb

/-! ## Pairs -/

theorem encodePair_clean (pair : String × String) :
    ∀ c ∈ encodePair pair, c ≠ '&' ∧ c ≠ '#' := by
  intro c hc
  rcases List.mem_append.1 hc with hkey | hvalue
  · exact ⟨(encodeText_clean _ c hkey).1, (encodeText_clean _ c hkey).2.1⟩
  · rcases List.mem_cons.1 hvalue with rfl | hvalue
    · decide
    · exact ⟨(encodeText_clean _ c hvalue).1, (encodeText_clean _ c hvalue).2.1⟩

theorem decodePair_encodePair (pair : String × String) : decodePair (encodePair pair) = pair := by
  have hkey : (encodePair pair).takeWhile (· != '=') = encodeText pair.1 := by
    unfold encodePair
    rw [List.takeWhile_append_of_pos fun c hc ↦ bne_iff_ne.2 (encodeText_clean _ c hc).2.2]
    simp
  have hvalue : (encodePair pair).drop ((encodeText pair.1).length + 1) = encodeText pair.2 := by
    unfold encodePair
    rw [← List.drop_drop, List.drop_left]
    rfl
  unfold decodePair
  dsimp only
  rw [hkey, hvalue, decodeText_encodeText, decodeText_encodeText]

theorem hash_notMem_encode (pairs : List (String × String)) : '#' ∉ encode pairs := by
  intro h
  obtain ⟨pair, -, hpair⟩ := List.mem_flatMap.1 h
  rcases List.mem_cons.1 hpair with h | h
  · cases h
  · exact (encodePair_clean pair _ h).2 rfl

/-! ## Parts -/

/-- The pairs that the parts of a query stand for. -/
def pairsOf (texts : List (List Char)) : List (String × String) :=
  (texts.filter fun text ↦ !text.isEmpty).map decodePair

theorem decode_eq_pairsOf (cs : List Char) : decode cs = pairsOf (parts [] cs) := rfl

theorem pairsOf_append (first second : List (List Char)) :
    pairsOf (first ++ second) = pairsOf first ++ pairsOf second := by
  unfold pairsOf
  rw [List.filter_append, List.map_append]

theorem pairsOf_encoded (pairs : List (String × String)) :
    pairsOf (pairs.map encodePair) = pairs := by
  have hall : ∀ text ∈ pairs.map encodePair, (!text.isEmpty) = true := by
    intro text htext
    obtain ⟨pair, -, rfl⟩ := List.mem_map.1 htext
    simp [encodePair]
  unfold pairsOf
  rw [List.filter_eq_self.2 hall, List.map_map]
  exact (List.map_congr_left fun pair _ ↦ decodePair_encodePair pair).trans (List.map_id _)

/-- An ampersand ends a part, whatever follows it. -/
theorem parts_append_cons (part front back : List Char) :
    parts part (front ++ '&' :: back) = parts part front ++ parts [] back := by
  induction front generalizing part with
  | nil => simp [parts]
  | cons c front ih =>
    by_cases hc : c = '&'
    · simp [parts, hc, ih]
    · simp [parts, hc, ih]

theorem parts_of_notMem {cs : List Char} (h : '&' ∉ cs) (part : List Char) :
    parts part cs = [part.reverse ++ cs] := by
  induction cs generalizing part with
  | nil => simp [parts]
  | cons c cs ih =>
    obtain ⟨hc, hrest⟩ := not_or.1 (mt List.mem_cons.2 h)
    simp [parts, Ne.symm hc, ih hrest]

/-- Encoded pairs stay by themselves behind any text. -/
theorem parts_append_encode (front : List Char) (pairs : List (String × String)) :
    parts [] (front ++ encode pairs) = parts [] front ++ pairs.map encodePair := by
  induction pairs generalizing front with
  | nil => simp [encode]
  | cons pair pairs ih =>
    have hclean : '&' ∉ encodePair pair := fun h ↦ (encodePair_clean pair _ h).1 rfl
    have hencode : encode (pair :: pairs) = '&' :: (encodePair pair ++ encode pairs) := rfl
    rw [hencode, parts_append_cons, ih, parts_of_notMem hclean]
    rfl

/-- What is read of a query is what was written, behind what the text before it spells. -/
theorem decode_append_encode (front : List Char) (pairs : List (String × String)) :
    decode (front ++ encode pairs) = decode front ++ pairs := by
  rw [decode_eq_pairsOf, parts_append_encode, pairsOf_append, pairsOf_encoded]
  rfl

end ClusterObjects.Text.Query
