import InitializerJson.Proofs.Character.Classes
import InitializerJson.Proofs.Number.NormalNumeral
import Mathlib.Algebra.Order.Field.Rat
import Mathlib.Data.List.Induction
import Mathlib.Tactic.FieldSimp
import Mathlib.Tactic.Ring

namespace InitializerJson

open Character JsonText

/-!
# The rational numbers that decimal texts write

A decimal text writes the whole number in front of its point, the part of one that
the digits behind the point are, and a power of ten by which both are taken.  A real
numeral keeps this number when it is rendered, and is finite when the number is
below the bound of finite doubles.
-/

/-- The part of one that a point and digits behind it write, if they are there. -/
inductive WritesFraction : List Char → ℚ → Prop where
  | absent :
      WritesFraction [] 0
  | present
      {digits : List Char} :
      digits ≠ [] →
      (∀ digit ∈ digits, digit.isDigit = true) →
      WritesFraction ('.' :: digits) (positionalValue 10 digits / 10 ^ digits.length)

/-- The power of ten that a mark, a sign and digits write, if they are there. -/
inductive WritesExponent : List Char → ℤ → Prop where
  | absent :
      WritesExponent [] 0
  | positive
      {mark : Char}
      {sign digits : List Char} :
      mark = 'e' ∨ mark = 'E' →
      sign = [] ∨ sign = ['+'] →
      digits ≠ [] →
      (∀ digit ∈ digits, digit.isDigit = true) →
      WritesExponent (mark :: (sign ++ digits)) (positionalValue 10 digits)
  | negative
      {mark : Char}
      {digits : List Char} :
      mark = 'e' ∨ mark = 'E' →
      digits ≠ [] →
      (∀ digit ∈ digits, digit.isDigit = true) →
      WritesExponent (mark :: '-' :: digits) (-positionalValue 10 digits)

/-- The number that a decimal text writes, of which some digits are required. -/
inductive WritesRational : List Char → ℚ → Prop where
  | intro
      {whole fraction exponent : List Char}
      {part : ℚ}
      {power : ℤ} :
      (∀ digit ∈ whole, digit.isDigit = true) →
      whole ≠ [] ∨ fraction ≠ [] →
      WritesFraction fraction part →
      WritesExponent exponent power →
      WritesRational (whole ++ (fraction ++ exponent))
        ((positionalValue 10 whole + part) * 10 ^ power)

/-! ## Positional values -/

/-- Digits behind others count less by their number. -/
theorem positionalValue_append
    (base : Nat)
    (front behind : List Char) :
    positionalValue base (front ++ behind) =
      positionalValue base front * base ^ behind.length + positionalValue base behind := by
  induction behind using List.reverseRecOn with
  | nil => simp [positionalValue]
  | append_singleton behind digit hypothesis =>
      have last : ∀ digits, positionalValue base (digits ++ [digit]) =
          base * positionalValue base digits + digitValue digit := by
        intro digits
        simp [positionalValue]
      rw [← List.append_assoc, last, last, hypothesis, List.length_append, List.length_singleton,
        pow_succ]
      ring

namespace Decimal

/-- The magnitude of a decimal. -/
def magnitude
    (decimal : Decimal) :
    ℚ :=
  decimal.coefficient * 10 ^ decimal.exponent

/-- The magnitude of a decimal by its parts, as its text shows them. -/
theorem magnitude_ofParts
    (negative : Bool)
    (whole fraction : List Char)
    (exponent : Int) :
    (ofParts negative whole fraction exponent).magnitude =
      (positionalValue 10 whole + positionalValue 10 fraction / 10 ^ fraction.length) *
        10 ^ exponent := by
  have shifted : (10 : ℚ) ^ (exponent - fraction.length) = 10 ^ exponent / 10 ^ fraction.length := by
    rw [zpow_sub₀ (by norm_num), zpow_natCast]
  simp only [magnitude, ofParts, positionalValue_append, shifted]
  push_cast
  field_simp

/-- The difference of two powers of two as a rational number. -/
theorem cast_sub_pow
    {small large : Nat}
    (ordered : small ≤ large) :
    ((Nat.pow 2 large - Nat.pow 2 small : Nat) : ℚ) = 2 ^ large - 2 ^ small := by
  have le : Nat.pow 2 small ≤ Nat.pow 2 large :=
    Nat.pow_le_pow_right (by decide) ordered
  rw [Nat.cast_sub le, Nat.pow_eq, Nat.pow_eq, Nat.cast_pow, Nat.cast_pow, Nat.cast_ofNat]

/-- The bound of finite doubles as a rational number. -/
theorem cast_overflowBound :
    (overflowBound : ℚ) = 2 ^ 1024 - 2 ^ 970 := by
  apply cast_sub_pow
  decide

/-- The powers of ten from the 310th on are above the bound. -/
theorem overflowBound_lt :
    overflowBound < 10 ^ 310 := by
  decide +kernel

/-- The magnitude of a decimal whose exponent is not negative is whole. -/
theorem magnitude_of_nonneg
    {decimal : Decimal}
    (whole : 0 ≤ decimal.exponent) :
    decimal.magnitude = (decimal.coefficient * 10 ^ decimal.exponent.toNat : Nat) := by
  obtain ⟨power, shape⟩ := Int.eq_ofNat_of_zero_le whole
  rw [magnitude, shape, Int.toNat_natCast, zpow_natCast]
  push_cast
  rfl

/-- The magnitude of a decimal whose exponent is negative is a quotient. -/
theorem magnitude_of_neg
    {decimal : Decimal}
    (divided : decimal.exponent < 0) :
    decimal.magnitude = decimal.coefficient / (10 ^ decimal.exponent.natAbs : Nat) := by
  obtain ⟨power, shape⟩ := Int.eq_negSucc_of_lt_zero divided
  rw [magnitude, shape, Int.natAbs_negSucc, zpow_negSucc]
  push_cast
  rw [div_eq_mul_inv]

/-- Finite decimals are those below the bound of finite doubles. -/
theorem isFinite_iff
    (decimal : Decimal) :
    decimal.isFinite = true ↔ decimal.magnitude < 2 ^ 1024 - 2 ^ 970 := by
  rw [← cast_overflowBound]
  have positiveBound : 1 ≤ overflowBound := by
    decide +kernel
  by_cases zero : decimal.coefficient = 0
  · have finite : decimal.isFinite = true := by
      simp [isFinite, zero]
    have none : decimal.magnitude = 0 := by
      simp [magnitude, zero]
    have below : decimal.magnitude < overflowBound := by
      rw [none]
      exact_mod_cast positiveBound
    exact iff_of_true finite below
  by_cases whole : 0 ≤ decimal.exponent
  · rw [magnitude_of_nonneg whole, Nat.cast_lt]
    have early : decimal.coefficient * 10 ^ decimal.exponent.toNat < overflowBound →
        decimal.exponent < 310 := by
      intro below
      by_contra late
      have grows : 10 ^ 310 ≤ 10 ^ decimal.exponent.toNat := by
        apply Nat.pow_le_pow_right
        · decide
        · omega
      have counted : 10 ^ decimal.exponent.toNat ≤
          decimal.coefficient * 10 ^ decimal.exponent.toNat :=
        Nat.le_mul_of_pos_left _ (Nat.pos_of_ne_zero zero)
      exact Nat.lt_asymm below (overflowBound_lt.trans_le (grows.trans counted))
    simpa [isFinite, zero, whole] using early
  · have divided : decimal.exponent < 0 := by
      omega
    have positive : (0 : ℚ) < (10 ^ decimal.exponent.natAbs : Nat) := by
      exact_mod_cast Nat.pow_pos (by decide)
    rw [magnitude_of_neg divided, div_lt_iff₀ positive, ← Nat.cast_mul, Nat.cast_lt]
    have small : decimal.coefficient.log2 < decimal.exponent.natAbs →
        decimal.coefficient < overflowBound * 10 ^ decimal.exponent.natAbs := by
      intro short
      calc
        decimal.coefficient < 2 ^ decimal.exponent.natAbs := (Nat.log2_lt zero).mp short
        _ ≤ 10 ^ decimal.exponent.natAbs := Nat.pow_le_pow_left (by decide) _
        _ ≤ overflowBound * 10 ^ decimal.exponent.natAbs :=
          Nat.le_mul_of_pos_left _ positiveBound
    simpa [isFinite, zero, whole] using small

end Decimal

namespace RealNumeral

/-- The part of one behind the point of a numeral. -/
def part
    (numeral : RealNumeral) :
    ℚ :=
  positionalValue 10 (numeral.fraction.getD []) / 10 ^ (numeral.fraction.getD []).length

/-- The power of ten of a numeral. -/
def power
    (numeral : RealNumeral) :
    ℤ :=
  match numeral.exponent with
  | none => 0
  | some text => Decimal.signedValue (Decimal.readSign text).1 (Decimal.readSign text).2

/-- The magnitude of a numeral by its parts. -/
theorem magnitude_toDecimal
    (negative : Bool)
    (numeral : RealNumeral) :
    (numeral.toDecimal negative).magnitude =
      (positionalValue 10 numeral.whole + numeral.part) * 10 ^ numeral.power :=
  Decimal.magnitude_ofParts negative numeral.whole (numeral.fraction.getD []) numeral.power

/-- A numeral has the magnitude of its normal form. -/
theorem magnitude_normal
    (negative : Bool)
    (numeral : RealNumeral) :
    (numeral.normal.toDecimal negative).magnitude = (numeral.toDecimal negative).magnitude := by
  have whole := positionalValue_leadingDigits numeral []
  rw [List.append_nil, List.append_nil] at whole
  have part : numeral.normal.part = numeral.part := by
    obtain ⟨whole, fraction, exponent⟩ := numeral
    cases fraction <;> cases exponent <;>
      simp [RealNumeral.part, normal, positionalValue, digitValue]
  have power : numeral.normal.power = numeral.power := rfl
  rw [magnitude_toDecimal, magnitude_toDecimal, part, power]
  exact congrArg (fun digits : Nat => ((digits : ℚ) + numeral.part) * 10 ^ numeral.power) whole

/-- The fraction of a numeral writes its part of one. -/
theorem WellFormed.writesFraction
    {numeral : RealNumeral}
    (wellFormed : numeral.WellFormed) :
    WritesFraction numeral.fractionText numeral.part := by
  obtain ⟨whole, fraction, exponent⟩ := numeral
  cases fraction with
  | none => simpa [RealNumeral.fractionText, part, positionalValue] using WritesFraction.absent
  | some digits =>
      obtain ⟨nonempty, inside⟩ := areDigits_iff.mp (wellFormed.fraction digits rfl)
      exact .present nonempty inside

/-- The exponent of a numeral writes its power of ten. -/
theorem WellFormed.writesExponent
    {numeral : RealNumeral}
    (wellFormed : numeral.WellFormed) :
    WritesExponent numeral.exponentText numeral.power := by
  obtain ⟨whole, fraction, exponent⟩ := numeral
  cases exponent with
  | none => exact .absent
  | some text =>
      obtain ⟨nonempty, inside⟩ := areDigits_iff.mp (wellFormed.exponent text rfl)
      simp only [RealNumeral.exponentText, power]
      revert nonempty inside
      unfold Decimal.readSign
      split
      · exact fun nonempty inside => .negative (.inl rfl) nonempty inside
      · exact fun nonempty inside => .positive (.inl rfl) (.inr rfl) nonempty inside
      · exact fun nonempty inside => .positive (.inl rfl) (.inl rfl) nonempty inside

/-- A numeral writes its magnitude. -/
theorem WellFormed.writesRational
    {numeral : RealNumeral}
    (wellFormed : numeral.WellFormed)
    (negative : Bool) :
    WritesRational (numeral.whole ++ (numeral.fractionText ++ numeral.exponentText))
      (numeral.toDecimal negative).magnitude := by
  rw [magnitude_toDecimal]
  refine .intro (List.all_eq_true.mp wellFormed.whole) ?_ wellFormed.writesFraction
    wellFormed.writesExponent
  refine wellFormed.some.imp_right fun present => ?_
  obtain ⟨digits, shape⟩ := Option.isSome_iff_exists.mp present
  simp [RealNumeral.fractionText, shape]

/-- Digits have no other small form. -/
theorem map_toLower_of_isDigit
    {digits : List Char}
    (areDigits : ∀ digit ∈ digits, digit.isDigit = true) :
    digits.map Char.toLower = digits := by
  have same : ∀ digit ∈ digits, digit.toLower = id digit :=
    fun digit member => toLower_of_isDigit (areDigits digit member)
  rw [List.map_congr_left same, List.map_id]

/-- What writes a part of one is the fraction of a numeral. -/
theorem exists_fraction
    {text : List Char}
    {part : ℚ}
    (writes : WritesFraction text part) :
    ∃ fraction : Option (List Char),
      (∀ digits ∈ fraction, areDigits digits = true) ∧
        (text ≠ [] → fraction.isSome = true) ∧
        ∀ whole exponent,
          (RealNumeral.mk whole fraction exponent).fractionText = text.map Char.toLower ∧
            (RealNumeral.mk whole fraction exponent).part = part := by
  cases writes with
  | absent =>
      exact ⟨none, by simp, by simp, fun _ _ => ⟨rfl, by simp [RealNumeral.part, positionalValue]⟩⟩
  | @present digits nonempty inside =>
      have small : ('.' :: digits).map Char.toLower = '.' :: digits :=
        congrArg ('.' :: ·) (map_toLower_of_isDigit inside)
      exact ⟨some digits, by simpa using areDigits_iff.mpr ⟨nonempty, inside⟩, by simp,
        fun _ _ => ⟨small.symm, rfl⟩⟩

/-- Digits begin with no sign. -/
theorem readSign_of_isDigit
    {digits : List Char}
    (inside : ∀ digit ∈ digits, digit.isDigit = true) :
    Decimal.readSign digits = (false, digits) := by
  unfold Decimal.readSign
  split
  · exact absurd (inside '-' List.mem_cons_self) (by decide)
  · exact absurd (inside '+' List.mem_cons_self) (by decide)
  · rfl

/-- What writes a power of ten is the exponent of a numeral. -/
theorem exists_exponent
    {text : List Char}
    {power : ℤ}
    (writes : WritesExponent text power) :
    ∃ exponent : Option (List Char),
      (∀ digits ∈ exponent, areDigits (Decimal.readSign digits).2 = true) ∧
        ∀ whole fraction,
          (RealNumeral.mk whole fraction exponent).exponentText = text.map Char.toLower ∧
            (RealNumeral.mk whole fraction exponent).power = power := by
  cases writes with
  | absent => exact ⟨none, by simp, fun _ _ => ⟨rfl, rfl⟩⟩
  | @positive mark sign digits marked signed nonempty inside =>
      have read : Decimal.readSign (sign ++ digits) = (false, digits) := by
        rcases signed with rfl | rfl
        · exact readSign_of_isDigit inside
        · rfl
      have small : (mark :: (sign ++ digits)).map Char.toLower = 'e' :: (sign ++ digits) := by
        rw [List.map_cons, List.map_append, map_toLower_of_isDigit inside]
        rcases marked with rfl | rfl <;> rcases signed with rfl | rfl <;> rfl
      refine ⟨some (sign ++ digits), ?_, fun _ _ => ⟨small.symm, ?_⟩⟩
      · simpa [read] using areDigits_iff.mpr ⟨nonempty, inside⟩
      · simp [RealNumeral.power, read, Decimal.signedValue]
  | @negative mark digits marked nonempty inside =>
      have small : (mark :: '-' :: digits).map Char.toLower = 'e' :: '-' :: digits := by
        rw [List.map_cons, List.map_cons, map_toLower_of_isDigit inside]
        rcases marked with rfl | rfl <;> rfl
      refine ⟨some ('-' :: digits), ?_, fun _ _ => ⟨small.symm, rfl⟩⟩
      simpa [Decimal.readSign] using areDigits_iff.mpr ⟨nonempty, inside⟩

/-- Every text that writes a number is, in small letters, a numeral of this magnitude. -/
theorem exists_wellFormed_of_writesRational
    {text : List Char}
    {value : ℚ}
    (writes : WritesRational text value) :
    ∃ numeral : RealNumeral,
      numeral.WellFormed ∧
        text.map Char.toLower =
          numeral.whole ++ (numeral.fractionText ++ numeral.exponentText) ∧
        ∀ negative, (numeral.toDecimal negative).magnitude = value := by
  obtain @⟨whole, fractionText, exponentText, part, power, inside, filled, pointed, scaled⟩ := writes
  obtain ⟨fraction, fractionDigits, present, fractionSpelled⟩ := exists_fraction pointed
  obtain ⟨exponent, exponentDigits, exponentSpelled⟩ := exists_exponent scaled
  obtain ⟨fractionShape, partShape⟩ := fractionSpelled whole exponent
  obtain ⟨exponentShape, powerShape⟩ := exponentSpelled whole fraction
  refine ⟨⟨whole, fraction, exponent⟩, ?_, ?_, fun negative => ?_⟩
  · exact ⟨List.all_eq_true.mpr inside, filled.imp_right present, fractionDigits, exponentDigits⟩
  · rw [List.map_append, List.map_append, map_toLower_of_isDigit inside, fractionShape,
      exponentShape]
  · rw [magnitude_toDecimal, partShape, powerShape]

end RealNumeral

/-- A text writes one number at most. -/
theorem WritesRational.unique
    {text : List Char}
    {first second : ℚ}
    (writesFirst : WritesRational text first)
    (writesSecond : WritesRational text second) :
    first = second := by
  obtain ⟨numeral, wellFormed, shape, magnitude⟩ :=
    RealNumeral.exists_wellFormed_of_writesRational writesFirst
  obtain ⟨other, otherWellFormed, otherShape, otherMagnitude⟩ :=
    RealNumeral.exists_wellFormed_of_writesRational writesSecond
  have read := RealNumeral.ofText?_of_wellFormed wellFormed
  rw [← shape, otherShape, RealNumeral.ofText?_of_wellFormed otherWellFormed] at read
  cases read
  rw [← magnitude false, ← otherMagnitude false]

end InitializerJson
