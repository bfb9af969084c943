import InitializerJson.Number.Basic

namespace InitializerJson

open Character

/-!
# Decimal digits of whole numbers

The text of an integer is its sign and the digits of its magnitude.  These
digits write the magnitude again, and no zero stands before another digit.
-/

/-- Digits up to nine have the values that their codes count from zero. -/
theorem digitValue_of_isDigit
    {character : Char}
    (digit : character.isDigit = true) :
    digitValue character = character.toNat - '0'.toNat := by
  simp [digitValue, digit]

/-- Positional values in base ten are what the library counts for digits. -/
theorem positionalValue_ten_eq_ofDigitChars
    {digits : List Char}
    (areDigits : ∀ digit ∈ digits, digit.isDigit = true) :
    positionalValue 10 digits = Nat.ofDigitChars 10 digits 0 := by
  unfold positionalValue Nat.ofDigitChars
  generalize 0 = start
  induction digits generalizing start with
  | nil => rfl
  | cons digit digits hypothesis =>
      obtain ⟨first, others⟩ := List.forall_mem_cons.mp areDigits
      rw [List.foldl_cons, List.foldl_cons, digitValue_of_isDigit first]
      exact hypothesis others _

/-- The decimal digits of a number are digits. -/
theorem isDigit_of_mem_decimalDigits
    (number : Nat) :
    ∀ digit ∈ Nat.toDigits 10 number, digit.isDigit = true := by
  intro digit member
  exact Nat.isDigit_of_mem_toDigits (by decide) (by decide) member

/-- The decimal digits of a number write it. -/
theorem positionalValue_decimalDigits
    (number : Nat) :
    positionalValue 10 (Nat.toDigits 10 number) = number := by
  rw [positionalValue_ten_eq_ofDigitChars (isDigit_of_mem_decimalDigits number)]
  exact Nat.ofDigitChars_ten_toDigits

/-- A positive number's first decimal digit is not zero. -/
theorem head?_decimalDigits_ne_zero
    {number : Nat}
    (positive : 0 < number) :
    (Nat.toDigits 10 number).head? ≠ some '0' := by
  induction number using Nat.strongRecOn with
  | ind number hypothesis =>
      rw [Nat.toDigits_eq_if (by decide)]
      split
      · next small =>
          simpa using Nat.ne_of_gt positive
      · next large =>
          have quotient : 0 < number / 10 := by omega
          have smaller : number / 10 < number := by omega
          have front := hypothesis (number / 10) smaller quotient
          obtain ⟨first, others, shape⟩ :=
            List.exists_cons_of_ne_nil
              (Nat.toDigits_ne_nil (n := number / 10) (b := 10))
          rw [shape] at front ⊢
          exact front

/-- Digits without a zero before another digit. -/
inductive WholeText : List Char → Prop where
  | zero :
      WholeText ['0']
  | positive
      {first : Char}
      {others : List Char} :
      first.isDigit = true →
      first ≠ '0' →
      (∀ digit ∈ others, digit.isDigit = true) →
      WholeText (first :: others)

/-- The digits of a whole text are digits. -/
theorem WholeText.isDigit
    {digits : List Char}
    (whole : WholeText digits) :
    ∀ digit ∈ digits, digit.isDigit = true := by
  cases whole with
  | zero => simp
  | positive first _ others =>
      exact List.forall_mem_cons.mpr ⟨first, others⟩

/-- A whole text has one digit at least. -/
theorem WholeText.ne_nil
    {digits : List Char}
    (whole : WholeText digits) :
    digits ≠ [] := by
  cases whole <;> simp

/-- The decimal digits of a number have no zero before another digit. -/
theorem wholeText_decimalDigits
    (number : Nat) :
    WholeText (Nat.toDigits 10 number) := by
  rcases Nat.eq_zero_or_pos number with rfl | positive
  · exact .zero
  · have head := head?_decimalDigits_ne_zero positive
    have digits := isDigit_of_mem_decimalDigits number
    obtain ⟨first, others, shape⟩ :=
      List.exists_cons_of_ne_nil (Nat.toDigits_ne_nil (n := number) (b := 10))
    rw [shape] at head digits ⊢
    obtain ⟨firstDigit, otherDigits⟩ := List.forall_mem_cons.mp digits
    exact .positive firstDigit (by simpa using head) otherDigits

/-- The mark of a negative number. -/
def signText
    (negative : Bool) :
    List Char :=
  if negative then ['-'] else []

/-- The sign and digits of an integer. -/
theorem toList_text_integer
    (value : Int) :
    (Number.integer value).text.toList =
      signText (decide (value < 0)) ++ Nat.toDigits 10 value.natAbs := by
  cases value with
  | ofNat magnitude =>
      have sign : decide ((Int.ofNat magnitude) < 0) = false := by
        simp
      rw [sign]
      exact Nat.toList_repr
  | negSucc before =>
      have sign : decide (Int.negSucc before < 0) = true := by
        simp
      rw [sign]
      change ("-" ++ Nat.repr (before + 1)).toList = _
      rw [String.toList_append, Nat.toList_repr]
      rfl

/-- The sign and magnitude of an integer write it. -/
theorem signedValue_decimalDigits
    (value : Int) :
    Decimal.signedValue (decide (value < 0)) (Nat.toDigits 10 value.natAbs) =
      value := by
  simp only [Decimal.signedValue, positionalValue_decimalDigits, decide_eq_true_eq]
  split <;> omega

end InitializerJson
