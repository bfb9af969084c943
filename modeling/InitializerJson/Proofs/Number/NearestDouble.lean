import InitializerJson.Proofs.Number.DoubleScale
import InitializerJson.Proofs.Number.RationalText

namespace InitializerJson

/-!
# Decimals are rounded to the nearest double

The bits that a decimal is rounded to are those of the finite double nearest to it, or
of the even one where two are.  They are found by counting in units of a power of two
that is read off the binary lengths of numerator and denominator.
-/

namespace Decimal

/-! ## Powers of two as quotients -/

/-- A power of two is a quotient of natural ones. -/
theorem zpow_two_eq_div
    (exponent : ℤ) :
    (2 : ℚ) ^ exponent = (2 ^ exponent.toNat : ℕ) / (2 ^ (-exponent).toNat : ℕ) := by
  rcases le_total 0 exponent with whole | divided
  · obtain ⟨power, rfl⟩ := Int.eq_ofNat_of_zero_le whole
    simp
  · obtain ⟨power, shape⟩ := Int.eq_ofNat_of_zero_le (neg_nonneg.mpr divided)
    obtain rfl : exponent = -(power : ℤ) := by
      omega
    simp

/-- A quotient is one of whole numbers of units. -/
theorem div_eq_units
    (numerator denominator : ℕ)
    (unit : ℤ) :
    (numerator : ℚ) / denominator =
      ((numerator * Nat.pow 2 (-unit).toNat : ℕ) : ℚ) /
        (denominator * Nat.pow 2 unit.toNat : ℕ) * 2 ^ unit := by
  have left : ((2 ^ (-unit).toNat : ℕ) : ℚ) ≠ 0 := by
    positivity
  have right : ((2 ^ unit.toNat : ℕ) : ℚ) ≠ 0 := by
    positivity
  rw [zpow_two_eq_div, Nat.pow_eq, Nat.pow_eq, Nat.cast_mul, Nat.cast_mul]
  field_simp

/-- Whole numbers are compared with a power of two between them as they are without it. -/
theorem le_units_iff
    (numerator denominator : ℕ)
    (exponent : ℤ) :
    denominator * Nat.pow 2 exponent.toNat ≤ numerator * Nat.pow 2 (-exponent).toNat ↔
      (denominator : ℚ) * 2 ^ exponent ≤ numerator := by
  have positive : (0 : ℚ) < (2 ^ (-exponent).toNat : ℕ) := by
    positivity
  rw [zpow_two_eq_div, mul_div_assoc', div_le_iff₀ positive, Nat.pow_eq, Nat.pow_eq]
  norm_cast

/-- A positive whole number lies between the powers of two of its binary length. -/
theorem zpow_log2_bounds
    {value : ℕ}
    (positive : 0 < value) :
    (2 : ℚ) ^ (value.log2 : ℤ) ≤ value ∧ (value : ℚ) < 2 ^ ((value.log2 : ℤ) + 1) := by
  have lower : 2 ^ value.log2 ≤ value :=
    Nat.log2_self_le positive.ne'
  have upper : value < 2 ^ (value.log2 + 1) :=
    Nat.lt_log2_self
  constructor
  · rw [zpow_natCast]
    exact_mod_cast lower
  · rw [← Nat.cast_succ, zpow_natCast]
    exact_mod_cast upper

/-- A quotient lies between the power of two of its exponent and the next one. -/
theorem binaryExponent_bounds
    {numerator denominator : ℕ}
    (dividend : 0 < numerator)
    (divisor : 0 < denominator) :
    (2 : ℚ) ^ binaryExponent numerator denominator ≤ numerator / denominator ∧
      (numerator : ℚ) / denominator < 2 ^ (binaryExponent numerator denominator + 1) := by
  obtain ⟨numeratorLower, numeratorUpper⟩ := zpow_log2_bounds dividend
  obtain ⟨denominatorLower, denominatorUpper⟩ := zpow_log2_bounds divisor
  have positive : (0 : ℚ) < denominator := by
    exact_mod_cast divisor
  have two : (2 : ℚ) ≠ 0 := by
    norm_num
  rw [le_div_iff₀ positive, div_lt_iff₀ positive]
  simp only [binaryExponent]
  generalize estimated : (numerator.log2 : ℤ) - denominator.log2 = estimate
  split
  · next enough =>
      constructor
      · rw [mul_comm]
        exact (le_units_iff _ _ _).mp enough
      · calc
          (numerator : ℚ) < 2 ^ ((numerator.log2 : ℤ) + 1) := numeratorUpper
          _ = 2 ^ (estimate + 1) * 2 ^ (denominator.log2 : ℤ) := by
            rw [← zpow_add₀ two]
            congr 1
            omega
          _ ≤ 2 ^ (estimate + 1) * denominator :=
            mul_le_mul_of_nonneg_left denominatorLower (by positivity)
  · next tooMuch =>
      constructor
      · calc
          (2 : ℚ) ^ (estimate - 1) * denominator ≤
              2 ^ (estimate - 1) * 2 ^ ((denominator.log2 : ℤ) + 1) :=
            mul_le_mul_of_nonneg_left denominatorUpper.le (by positivity)
          _ = 2 ^ (numerator.log2 : ℤ) := by
            rw [← zpow_add₀ two]
            congr 1
            omega
          _ ≤ numerator := numeratorLower
      · rw [sub_add_cancel, mul_comm]
        exact not_le.mp fun enough => tooMuch ((le_units_iff _ _ _).mpr enough)

/-! ## Rounding -/

/-- A quotient is rounded down in the lower half, and up in the higher half. -/
theorem roundedQuotient_cases
    (numerator denominator : ℕ) :
    (roundedQuotient numerator denominator = numerator / denominator ∧
        2 * (numerator % denominator) ≤ denominator ∧
        (2 * (numerator % denominator) = denominator →
          numerator / denominator % 2 = 0)) ∨
      (roundedQuotient numerator denominator = numerator / denominator + 1 ∧
        denominator ≤ 2 * (numerator % denominator) ∧
        (2 * (numerator % denominator) = denominator →
          numerator / denominator % 2 = 1)) := by
  simp only [roundedQuotient, Bool.or_eq_true, Bool.and_eq_true, decide_eq_true_eq]
  split
  · next up => exact .inr ⟨rfl, by omega, by omega⟩
  · next down => exact .inl ⟨rfl, by omega, by omega⟩

/-- A quotient is its whole part and what the remainder makes of it. -/
theorem div_eq_whole_add_rest
    {denominator : ℕ}
    (divisor : 0 < denominator)
    (numerator : ℕ) :
    (numerator : ℚ) / denominator =
      (numerator / denominator : ℕ) + (numerator % denominator : ℕ) / denominator := by
  have positive : (0 : ℚ) < denominator := by
    exact_mod_cast divisor
  have whole : (numerator : ℚ) =
      denominator * (numerator / denominator : ℕ) + (numerator % denominator : ℕ) := by
    exact_mod_cast (Nat.div_add_mod numerator denominator).symm
  rw [div_eq_iff positive.ne', add_mul, div_mul_cancel₀ _ positive.ne']
  linarith

/-- What is less than some units has fewer whole ones. -/
theorem div_lt_of_units
    {numerator denominator count : ℕ}
    {unit : ℚ}
    (divisor : 0 < denominator)
    (positive : 0 < unit)
    (less : (numerator : ℚ) / denominator * unit < count * unit) :
    numerator / denominator < count := by
  have divisorPositive : (0 : ℚ) < denominator := by
    exact_mod_cast divisor
  have counted := lt_of_mul_lt_mul_right less positive.le
  rw [div_lt_iff₀ divisorPositive] at counted
  rw [Nat.div_lt_iff_lt_mul divisor]
  exact_mod_cast counted

/-- What is at least some units has as many whole ones. -/
theorem le_div_of_units
    {numerator denominator count : ℕ}
    {unit : ℚ}
    (divisor : 0 < denominator)
    (positive : 0 < unit)
    (enough : count * unit ≤ (numerator : ℚ) / denominator * unit) :
    count ≤ numerator / denominator := by
  have divisorPositive : (0 : ℚ) < denominator := by
    exact_mod_cast divisor
  have counted := le_of_mul_le_mul_right enough positive
  rw [le_div_iff₀ divisorPositive] at counted
  rw [Nat.le_div_iff_mul_le divisor]
  exact_mod_cast counted

/-- A count of units, of which the double scale has as many, is rounded to the nearest double. -/
theorem isNearestEven_units
    {numerator denominator shift : ℕ}
    (divisor : 0 < denominator)
    (upper : numerator / denominator < 2 ^ 53)
    (lower : shift = 0 ∨ 2 ^ 52 ≤ numerator / denominator) :
    IsNearestEven ((numerator : ℚ) / denominator * 2 ^ ((shift : ℤ) - 1074))
      (shift * 2 ^ 52 + roundedQuotient numerator denominator) := by
  have low := doubleMagnitude_scaled upper.le lower
  have high := doubleMagnitude_scaled (Nat.succ_le_of_lt upper) (lower.imp_right (by omega))
  rw [Nat.succ_eq_add_one, ← Nat.add_assoc, Nat.cast_succ] at high
  have positive : (0 : ℚ) < denominator := by
    exact_mod_cast divisor
  have unit : (0 : ℚ) < 2 ^ ((shift : ℤ) - 1074) := by
    positivity
  have division := div_eq_whole_add_rest divisor numerator
  have rest : (0 : ℚ) ≤ (numerator % denominator : ℕ) / denominator := by
    positivity
  have less : ((numerator % denominator : ℕ) : ℚ) / denominator ≤ 1 := by
    rw [div_le_one positive]
    exact_mod_cast (Nat.mod_lt numerator divisor).le
  have gap :
      doubleMagnitude (shift * 2 ^ 52 + numerator / denominator + 1) -
          doubleMagnitude (shift * 2 ^ 52 + numerator / denominator) =
        1 * 2 ^ ((shift : ℤ) - 1074) := by
    rw [low, high]
    ring
  have above :
      2 * ((numerator : ℚ) / denominator * 2 ^ ((shift : ℤ) - 1074) -
          doubleMagnitude (shift * 2 ^ 52 + numerator / denominator)) =
        (2 * (numerator % denominator : ℕ) : ℕ) / denominator * 2 ^ ((shift : ℤ) - 1074) := by
    rw [low, division]
    push_cast
    ring
  have tie : 2 * (numerator % denominator) = denominator ↔
      ((2 * (numerator % denominator) : ℕ) : ℚ) / denominator * 2 ^ ((shift : ℤ) - 1074) =
        1 * 2 ^ ((shift : ℤ) - 1074) := by
    rw [mul_left_inj' unit.ne', div_eq_one_iff_eq positive.ne', Nat.cast_inj]
  rcases roundedQuotient_cases numerator denominator with
    ⟨rounded, half, even⟩ | ⟨rounded, half, odd⟩
  · rw [rounded]
    apply isNearestEven_low
    · rw [low, division]
      exact mul_le_mul_of_nonneg_right (le_add_of_nonneg_right rest) unit.le
    · rw [gap, above]
      refine mul_le_mul_of_nonneg_right ?_ unit.le
      rw [div_le_one positive]
      exact_mod_cast half
    · rw [gap, above, ← tie]
      intro isTie
      have isEven := even isTie
      omega
  · rw [rounded, ← Nat.add_assoc]
    apply isNearestEven_high
    · rw [high, division]
      exact mul_le_mul_of_nonneg_right (add_le_add_right less _) unit.le
    · rw [gap, above]
      refine mul_le_mul_of_nonneg_right ?_ unit.le
      rw [one_le_div positive]
      exact_mod_cast half
    · rw [gap, above, ← tie]
      intro isTie
      have isOdd := odd isTie
      omega

/-- A positive quotient is rounded to the nearest double. -/
theorem isNearestEven_nearestBits
    {numerator denominator : ℕ}
    (dividend : 0 < numerator)
    (divisor : 0 < denominator) :
    IsNearestEven ((numerator : ℚ) / denominator) (nearestBits numerator denominator) := by
  obtain ⟨lower, upper⟩ := binaryExponent_bounds dividend divisor
  rw [nearestBits]
  generalize binaryExponent numerator denominator = exponent at lower upper
  generalize units : max (exponent - 52) (-1074) = unit
  have shifted : ((unit + 1074).toNat : ℤ) - 1074 = unit := by
    omega
  have scaled := div_eq_units numerator denominator unit
  have divisorUnits : 0 < denominator * Nat.pow 2 unit.toNat :=
    Nat.mul_pos divisor (Nat.pow_pos (by decide))
  have unitPositive : (0 : ℚ) < 2 ^ unit := by
    positivity
  have two : (2 : ℚ) ≠ 0 := by
    norm_num
  rw [scaled] at lower upper
  have few :
      numerator * Nat.pow 2 (-unit).toNat / (denominator * Nat.pow 2 unit.toNat) < 2 ^ 53 := by
    have bound : (2 : ℚ) ^ (exponent + 1) ≤ (2 ^ 53 : ℕ) * 2 ^ unit := by
      rw [Nat.cast_pow, Nat.cast_ofNat, ← zpow_natCast, ← zpow_add₀ two]
      exact zpow_le_zpow_right₀ (by norm_num) (by omega)
    exact div_lt_of_units divisorUnits unitPositive (upper.trans_le bound)
  have many : (unit + 1074).toNat = 0 ∨ 2 ^ 52 ≤
      numerator * Nat.pow 2 (-unit).toNat / (denominator * Nat.pow 2 unit.toNat) := by
    refine or_iff_not_imp_left.mpr fun normal => ?_
    have bound : ((2 ^ 52 : ℕ) : ℚ) * 2 ^ unit = 2 ^ exponent := by
      rw [Nat.cast_pow, Nat.cast_ofNat, ← zpow_natCast, ← zpow_add₀ two]
      congr 1
      omega
    rw [← bound] at lower
    exact le_div_of_units divisorUnits unitPositive lower
  have rounds := isNearestEven_units divisorUnits few many
  rw [shifted, ← scaled] at rounds
  exact rounds

/-! ## Decimals -/

/-- Half of the least positive double and what is less are rounded to zero. -/
theorem isNearestEven_zero
    {value : ℚ}
    (nonneg : 0 ≤ value)
    (small : 2 * value ≤ 2 ^ (-1074 : ℤ)) :
    IsNearestEven value 0 := by
  have zero : doubleMagnitude 0 = 0 := by
    simp [doubleMagnitude]
  have least : doubleMagnitude (0 + 1) = 2 ^ (-1074 : ℤ) := by
    simp [doubleMagnitude]
  apply isNearestEven_low
  · rwa [zero]
  · rw [zero, least, sub_zero, sub_zero]
    exact small
  · exact fun _ => rfl

/-- A decimal with many more places than digits is rounded to zero. -/
theorem magnitude_small
    {decimal : Decimal}
    (divided : decimal.exponent < 0)
    (short : decimal.coefficient.log2 + 331 ≤ decimal.exponent.natAbs) :
    2 * decimal.magnitude ≤ 2 ^ (-1074 : ℤ) := by
  -- The great powers stay closed, as no arithmetic is to spell them out.
  obtain ⟨margin, isMargin⟩ : ∃ margin, margin = 331 := ⟨_, rfl⟩
  obtain ⟨tiny, isTiny⟩ : ∃ tiny, tiny = 2 ^ 1074 := ⟨_, rfl⟩
  have far : 4 * tiny ≤ 10 ^ margin := by
    rw [isTiny, isMargin]
    decide +kernel
  have digits : decimal.coefficient ≤ 2 ^ (decimal.coefficient.log2 + 1) :=
    Nat.lt_log2_self.le
  rw [← isMargin] at short
  have places : 2 ^ decimal.coefficient.log2 * 10 ^ margin ≤ 10 ^ decimal.exponent.natAbs :=
    calc
      2 ^ decimal.coefficient.log2 * 10 ^ margin ≤ 10 ^ decimal.coefficient.log2 * 10 ^ margin :=
        Nat.mul_le_mul_right _ (Nat.pow_le_pow_left (by decide) _)
      _ = 10 ^ (decimal.coefficient.log2 + margin) := (Nat.pow_add _ _ _).symm
      _ ≤ 10 ^ decimal.exponent.natAbs := Nat.pow_le_pow_right (by decide) short
  have compared : 2 * decimal.coefficient * tiny ≤ 10 ^ decimal.exponent.natAbs :=
    calc
      2 * decimal.coefficient * tiny ≤ 2 * 2 ^ (decimal.coefficient.log2 + 1) * tiny :=
        Nat.mul_le_mul_right _ (Nat.mul_le_mul_left _ digits)
      _ = 2 ^ decimal.coefficient.log2 * (4 * tiny) := by
        rw [Nat.pow_succ]
        ring
      _ ≤ 2 ^ decimal.coefficient.log2 * 10 ^ margin := Nat.mul_le_mul_left _ far
      _ ≤ 10 ^ decimal.exponent.natAbs := places
  have power : (2 : ℚ) ^ (-1074 : ℤ) = 1 / tiny := by
    rw [isTiny, zpow_neg, one_div, Nat.cast_pow, Nat.cast_ofNat]
    rfl
  have tinyPositive : (0 : ℚ) < tiny := by
    rw [isTiny, Nat.cast_pow]
    positivity
  have positive : (0 : ℚ) < (10 ^ decimal.exponent.natAbs : ℕ) := by
    positivity
  rw [magnitude_of_neg divided, power, mul_div_assoc', div_le_div_iff₀ positive tinyPositive,
    one_mul]
  exact_mod_cast compared

/-- The bits of a decimal are those of the double nearest to its magnitude. -/
theorem isNearestEven_magnitudeBits
    (decimal : Decimal) :
    IsNearestEven decimal.magnitude decimal.magnitudeBits := by
  unfold magnitudeBits
  split
  · next zero =>
      have none : decimal.magnitude = 0 := by
        simp [magnitude, zero]
      rw [none]
      refine isNearestEven_zero le_rfl ?_
      rw [mul_zero]
      positivity
  next nonzero =>
  have some : 0 < decimal.coefficient :=
    Nat.pos_of_ne_zero nonzero
  split
  · next whole =>
      have dividend : 0 < decimal.coefficient * Nat.pow 10 decimal.exponent.toNat :=
        Nat.mul_pos some (Nat.pow_pos (by decide))
      have rounds := isNearestEven_nearestBits dividend Nat.one_pos
      rwa [Nat.cast_one, div_one, Nat.pow_eq, ← magnitude_of_nonneg whole] at rounds
  next fractional =>
  have divided : decimal.exponent < 0 :=
    not_le.mp fractional
  split
  · next short =>
      have nonneg : 0 ≤ decimal.magnitude := by
        rw [magnitude]
        positivity
      exact isNearestEven_zero nonneg (magnitude_small divided short)
  · have divisor : 0 < Nat.pow 10 decimal.exponent.natAbs :=
      Nat.pow_pos (by decide)
    have rounds := isNearestEven_nearestBits some divisor
    rwa [Nat.pow_eq, ← magnitude_of_neg divided] at rounds

end Decimal

/-- The double with a sign and the bits of a magnitude. -/
def signedDouble
    (negative : Bool)
    (bits : ℕ) :
    UInt64 :=
  UInt64.ofNat ((if negative then 2 ^ 63 else 0) + bits)

/-- A decimal has a double exactly where one is nearest to it, and that one with its sign. -/
theorem Decimal.toDouble?_eq_some_iff
    {decimal : Decimal}
    {double : UInt64} :
    decimal.toDouble? = some double ↔
      ∃ bits,
        IsNearestDouble decimal.magnitude bits ∧ double = signedDouble decimal.negative bits := by
  have rounds := decimal.isNearestEven_magnitudeBits
  unfold toDouble?
  split
  · next finite =>
      have nearest := rounds.isNearestDouble (decimal.isFinite_iff.mp finite)
      constructor
      · rintro ⟨⟩
        exact ⟨decimal.magnitudeBits, nearest, rfl⟩
      · rintro ⟨bits, isNearest, rfl⟩
        rw [nearest.unique isNearest]
        rfl
  · next infinite =>
      constructor
      · rintro ⟨⟩
      · rintro ⟨bits, isNearest, _⟩
        exact absurd (decimal.isFinite_iff.mpr isNearest.bounded) infinite

end InitializerJson
