import ClusterAccess.Json.Reader
import ClusterAccess.Json.Writer
import Mathlib.Tactic.SplitIfs

/-!
# Strings as they are written

Each character of a string is written as itself or as an escape, and is read back from either
(`escapedChar_cases`). So a string that is written between quotes is read back whatever it holds and whatever
follows (`readString_quoted`).
-/

namespace ClusterAccess.Json

/-! ## Units -/

theorem baseDigit?_hexDigit : ∀ d < 16, Text.baseDigit? 16 (Utf8.hexDigit d) = some d := by decide

/-- The four digits that a unit is written with are read as the unit. -/
theorem unit?_digits {n : Nat} (h : n < 0x10000) (rest : List Char) :
    unit? ([n / 4096 % 16, n / 256 % 16, n / 16 % 16, n % 16].map Utf8.hexDigit ++ rest) =
      some (n, rest) := by
  have digit := fun k : Nat => baseDigit?_hexDigit (k % 16) (Nat.mod_lt k (by decide))
  have number : ((n / 4096 % 16 * 16 + n / 256 % 16) * 16 + n / 16 % 16) * 16 + n % 16 = n := by omega
  simp [unit?, digit, number]

/-- A character is no half of a pair, and its number has a bound. -/
theorem toNat_bounds (c : Char) : c.toNat < 0xD800 ∨ 0xE000 ≤ c.toNat ∧ c.toNat < 0x110000 := by
  have valid : c.toNat < 0xD800 ∨ 0xDFFF < c.toNat ∧ c.toNat < 0x110000 := c.valid
  omega

/-- A character of the basic plane is read back from its unit. -/
theorem escaped?_unit {c : Char} (h : c.toNat < 0x10000) (rest : List Char) :
    escaped? ((unitEscape c.toNat).tail ++ rest) = some (c, rest) := by
  have bounds := toNat_bounds c
  have high : Units.isHigh c.toNat = false := by
    simp only [Units.isHigh, Bool.and_eq_false_iff, decide_eq_false_iff_not]
    omega
  have low : Units.isLow c.toNat = false := by
    simp only [Units.isLow, Bool.and_eq_false_iff, decide_eq_false_iff_not]
    omega
  rw [unitEscape, List.tail_cons, List.cons_append, escaped?, escapedUnit, unit?_digits h]
  simp [high, low, Units.single]

/-- A character beyond the basic plane is read back from the two units of its pair. -/
theorem escaped?_pair {c : Char} (h : 0x10000 ≤ c.toNat) (rest : List Char) :
    escaped? ((unitEscape (0xD800 + (c.toNat - 0x10000) / 1024) ++
      unitEscape (0xDC00 + (c.toNat - 0x10000) % 1024)).tail ++ rest) = some (c, rest) := by
  have bounds := toNat_bounds c
  have whole : 0x10000 + (0xD800 + (c.toNat - 0x10000) / 1024 - 0xD800) * 1024 +
      (0xDC00 + (c.toNat - 0x10000) % 1024 - 0xDC00) = c.toNat := by
    omega
  have first : 0xD800 + (c.toNat - 0x10000) / 1024 < 0xDC00 := by omega
  have second : 0xDC00 + (c.toNat - 0x10000) % 1024 < 0xE000 := by omega
  generalize hh : 0xD800 + (c.toNat - 0x10000) / 1024 = high at whole first ⊢
  generalize hl : 0xDC00 + (c.toNat - 0x10000) % 1024 = low at whole second ⊢
  have isHigh : Units.isHigh high = true := by
    simp only [Units.isHigh, Bool.and_eq_true, decide_eq_true_eq]
    omega
  have isLow : Units.isLow low = true := by
    simp only [Units.isLow, Bool.and_eq_true, decide_eq_true_eq]
    omega
  rw [unitEscape, unitEscape, List.cons_append, List.tail_cons, List.cons_append, List.cons_append,
    escaped?, escapedUnit, List.append_assoc, unit?_digits (by omega)]
  simp only [isHigh, if_true, List.cons_append, unit?_digits (show low < 0x10000 by omega), isLow, whole,
    Char.ofNat_toNat]

/-! ## Characters -/

/-- A character is written as an escape that is read back, or as itself and then it is neither the quote
nor a backslash nor a control character. -/
theorem escapedChar_cases (c : Char) :
    (∃ cs, escapedChar c = '\\' :: cs ∧ ∀ rest, escaped? (cs ++ rest) = some (c, rest)) ∨
      escapedChar c = [c] ∧ c ≠ '"' ∧ c ≠ '\\' ∧ 32 ≤ c.toNat := by
  have numbered : ∀ n, c.toNat = n → c = Char.ofNat n := by
    rintro n rfl
    exact (Char.ofNat_toNat c).symm
  unfold escapedChar
  dsimp only
  split_ifs with quote backslash newline carriage tab back feed plain basic
  · exact .inl ⟨['"'], rfl, fun rest => by rw [quote]; rfl⟩
  · exact .inl ⟨['\\'], rfl, fun rest => by rw [backslash]; rfl⟩
  · exact .inl ⟨['n'], rfl, fun rest => by rw [newline]; rfl⟩
  · exact .inl ⟨['r'], rfl, fun rest => by rw [carriage]; rfl⟩
  · exact .inl ⟨['t'], rfl, fun rest => by rw [tab]; rfl⟩
  · exact .inl ⟨['b'], rfl, fun rest => by rw [numbered 8 back]; rfl⟩
  · exact .inl ⟨['f'], rfl, fun rest => by rw [numbered 12 feed]; rfl⟩
  · simp only [Bool.and_eq_true, decide_eq_true_eq] at plain
    exact .inr ⟨rfl, quote, backslash, plain.1⟩
  · exact .inl ⟨_, rfl, escaped?_unit basic⟩
  · exact .inl ⟨_, rfl, escaped?_pair (Nat.le_of_not_lt basic)⟩

/-- A written character is read back before what follows. -/
theorem readString_escapedChar (c : Char) (fuel : Nat) (cs : List Char) :
    readString (fuel + 1) (escapedChar c ++ cs) =
      (readString fuel cs).map fun read => (c :: read.1, read.2) := by
  obtain ⟨escape, written, read⟩ | ⟨written, quote, backslash, plain⟩ := escapedChar_cases c
  · rw [written, List.cons_append, readString, if_neg (by decide), if_pos rfl, read]
    dsimp only
    cases readString fuel cs <;> rfl
  · rw [written, List.singleton_append, readString, if_neg quote, if_neg backslash,
      if_neg (Nat.not_lt.mpr plain)]
    cases readString fuel cs <;> rfl

/-! ## Strings -/

theorem length_le_escaped (cs : List Char) : cs.length ≤ (cs.flatMap escapedChar).length := by
  induction cs with
  | nil => exact Nat.le_refl _
  | cons c cs ih =>
    have nonempty : 1 ≤ (escapedChar c).length := by
      obtain ⟨_, written, -⟩ | ⟨written, -⟩ := escapedChar_cases c <;> simp [written]
    rw [List.flatMap_cons, List.length_append, List.length_cons]
    omega

/-- The characters of a string are read back up to the quote behind them. -/
theorem readString_escaped (cs rest : List Char) {fuel : Nat} (h : cs.length < fuel) :
    readString fuel (cs.flatMap escapedChar ++ '"' :: rest) = .ok (cs, rest) := by
  induction cs generalizing fuel with
  | nil =>
    obtain ⟨fuel, rfl⟩ := Nat.exists_eq_add_one.mpr (Nat.zero_lt_of_lt h)
    rfl
  | cons c cs ih =>
    obtain ⟨fuel, rfl⟩ := Nat.exists_eq_add_one.mpr (Nat.zero_lt_of_lt h)
    rw [List.flatMap_cons, List.append_assoc, readString_escapedChar, ih (by simpa using h)]
    rfl

/-- A string between quotes is read back, whatever it holds and whatever follows. -/
theorem readString_quoted (s : String) (rest : List Char) :
    readString (s.toList.flatMap escapedChar ++ '"' :: rest).length.succ
      (s.toList.flatMap escapedChar ++ '"' :: rest) = .ok (s.toList, rest) := by
  refine readString_escaped s.toList rest ?_
  have := length_le_escaped s.toList
  rw [List.length_append]
  omega

end ClusterAccess.Json
