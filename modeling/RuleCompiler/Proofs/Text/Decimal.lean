import RuleCompiler.Text.Numeral

/-!
Laws of decimal numerals. Digits are the printed form of the number they spell exactly when no zero
stands before other digits.
-/

namespace RuleCompiler.Text

theorem decimalValue_eq_ofDigitChars (digits : List Char) :
    decimalValue digits = Nat.ofDigitChars 10 digits 0 := by
  rw [Nat.ofDigitChars_eq_foldl]
  unfold decimalValue digitValue
  simp only [Nat.mul_comm 10]

theorem decimalValue_toDigits (value : Nat) : decimalValue (Nat.toDigits 10 value) = value := by
  rw [decimalValue_eq_ofDigitChars, Nat.ofDigitChars_ten_toDigits]

theorem digitValue_pos {c : Char} (digit : c.isDigit = true) (nonzero : c ≠ '0') :
    0 < digitValue c := by
  have range : 48 ≤ c.toNat ∧ c.toNat ≤ 57 := Char.isDigit_iff_toNat.mp digit
  have notZero : c.toNat ≠ 48 := fun same => nonzero (Char.toNat_inj.mp same)
  change 0 < c.toNat - 48
  omega

/-- A digit is the numeral of its value. -/
theorem toDigits_digitValue {c : Char} (digit : c.isDigit = true) :
    digitValue c < 10 ∧ Nat.toDigits 10 (digitValue c) = [c] := by
  have range : 48 ≤ c.toNat ∧ c.toNat ≤ 57 := Char.isDigit_iff_toNat.mp digit
  have small : c.toNat - 48 < 10 := by omega
  refine ⟨small, ?_⟩
  change Nat.toDigits 10 (c.toNat - 48) = [c]
  rw [Nat.toDigits_of_lt_base small]
  congr 1
  apply Char.toNat_inj.mp
  rw [Nat.toNat_digitChar_of_lt_ten small]
  omega

/-- Digits after a numeral go on with it. -/
theorem toDigits_append {value : Nat} (positive : 0 < value) {digits : List Char}
    (areDigits : ∀ c ∈ digits, c.isDigit = true) :
    Nat.toDigits 10 value ++ digits = Nat.toDigits 10 (Nat.ofDigitChars 10 digits value) := by
  induction digits generalizing value with
  | nil => rw [List.append_nil, Nat.ofDigitChars_nil]
  | cons c rest ih =>
      obtain ⟨small, single⟩ := toDigits_digitValue (areDigits c List.mem_cons_self)
      have longer : Nat.toDigits 10 value ++ [c] = Nat.toDigits 10 (10 * value + digitValue c) := by
        rw [← single]
        exact Nat.toDigits_append_toDigits (by decide) positive small
      have still : 0 < 10 * value + digitValue c := by omega
      have areDigitsBelow : ∀ c ∈ rest, c.isDigit = true :=
        fun inner member => areDigits inner (List.mem_cons_of_mem c member)
      rw [List.append_cons, longer, ih still areDigitsBelow, Nat.ofDigitChars_cons]
      rfl

/-- Digits that do not start with zero are a numeral. -/
theorem toDigits_decimalValue_of_ne_zero {c : Char} {rest : List Char}
    (areDigits : ∀ d ∈ c :: rest, d.isDigit = true) (nonzero : c ≠ '0') :
    Nat.toDigits 10 (decimalValue (c :: rest)) = c :: rest := by
  have isDigit := areDigits c List.mem_cons_self
  obtain ⟨_, single⟩ := toDigits_digitValue isDigit
  have positive := digitValue_pos isDigit nonzero
  have areDigitsBelow : ∀ d ∈ rest, d.isDigit = true :=
    fun inner member => areDigits inner (List.mem_cons_of_mem c member)
  have longer := toDigits_append positive areDigitsBelow
  rw [single] at longer
  have value : decimalValue (c :: rest) = Nat.ofDigitChars 10 rest (digitValue c) := by
    rw [decimalValue_eq_ofDigitChars, Nat.ofDigitChars_cons]
    simp [digitValue]
  rw [value, ← longer]
  rfl

/-- The numeral of a positive number does not start with zero. -/
theorem head?_toDigits_ne_zero {value : Nat} (positive : 0 < value) :
    (Nat.toDigits 10 value).head? ≠ some '0' := by
  induction value using Nat.strongRecOn with
  | _ value ih =>
      by_cases small : value < 10
      · rw [Nat.toDigits_of_lt_base small, List.head?_cons, ne_eq, Option.some_inj,
          Nat.digitChar_eq_zero]
        omega
      · have front : 0 < value / 10 := by omega
        have starts := ih (value / 10) (by omega) front
        rw [Nat.toDigits_of_base_le (by decide) (by omega)]
        cases digits : Nat.toDigits 10 (value / 10) with
        | nil => exact absurd digits Nat.toDigits_ne_nil
        | cons c rest =>
            rw [digits] at starts
            exact starts

end RuleCompiler.Text
