import Mathlib.Algebra.Order.Field.Power
import Mathlib.Algebra.Order.Field.Rat
import Mathlib.Order.Monotone.Basic
import Mathlib.Tactic.Linarith
import Mathlib.Tactic.NormNum
import Mathlib.Tactic.Positivity
import Mathlib.Tactic.Ring

namespace InitializerJson

/-!
# The scale of doubles

The bits of a double without its sign count the doubles that are not negative upwards
from zero.  Doubles of one binary exponent lie evenly, and the first of the next lies
where one more of them would.  A rational number below the bound of finite doubles has
one nearest double, as of two that are equally near the one with even bits is taken.
-/

/-- The magnitude of the double with these bits, of which 52 are those of its fraction. -/
def doubleMagnitude
    (bits : ℕ) :
    ℚ :=
  if bits / 2 ^ 52 = 0 then
    bits * 2 ^ (-1074 : ℤ)
  else
    (2 ^ 52 + bits % 2 ^ 52 : ℕ) * 2 ^ ((bits / 2 ^ 52 : ℕ) - 1075 : ℤ)

/-- The bits of infinity, which are behind those of all finite doubles. -/
def infiniteBits : ℕ :=
  2047 * 2 ^ 52

/-- These are the bits of the finite double that a magnitude is rounded to. -/
structure IsNearestDouble
    (value : ℚ)
    (bits : ℕ) :
    Prop where
  /-- From half a unit above the greatest double on, a magnitude is rounded to none. -/
  bounded : value < 2 ^ 1024 - 2 ^ 970
  finite : bits < infiniteBits
  nearest :
    ∀ other < infiniteBits, |value - doubleMagnitude bits| ≤ |value - doubleMagnitude other|
  /-- Of two doubles that are equally near, the bits are the even ones. -/
  even :
    ∀ other < infiniteBits,
      other ≠ bits → |value - doubleMagnitude other| = |value - doubleMagnitude bits| →
        bits % 2 = 0

/-! ## Evenly spaced doubles -/

/-- Up to the first double of the next exponent, doubles are counted in units. -/
theorem doubleMagnitude_scaled
    {shift count : ℕ}
    (upper : count ≤ 2 ^ 53)
    (lower : shift = 0 ∨ 2 ^ 52 ≤ count) :
    doubleMagnitude (shift * 2 ^ 52 + count) = count * 2 ^ ((shift : ℤ) - 1074) := by
  rcases Nat.lt_or_ge count (2 ^ 52) with small | normal
  · have first : shift = 0 := by
      omega
    have quotient : (shift * 2 ^ 52 + count) / 2 ^ 52 = 0 := by
      omega
    rw [doubleMagnitude, if_pos quotient, first]
    simp
  rcases Nat.lt_or_eq_of_le upper with inside | last
  · have quotient : (shift * 2 ^ 52 + count) / 2 ^ 52 = shift + 1 := by
      omega
    have fraction : 2 ^ 52 + (shift * 2 ^ 52 + count) % 2 ^ 52 = count := by
      omega
    rw [doubleMagnitude, if_neg (by omega), quotient, fraction]
    congr 2
    push_cast
    ring
  · have quotient : (shift * 2 ^ 52 + count) / 2 ^ 52 = shift + 2 := by
      omega
    have fraction : 2 ^ 52 + (shift * 2 ^ 52 + count) % 2 ^ 52 = 2 ^ 52 := by
      omega
    have power : ((shift + 2 : ℕ) : ℤ) - 1075 = 1 + ((shift : ℤ) - 1074) := by
      push_cast
      ring
    rw [doubleMagnitude, if_neg (by omega), quotient, fraction, last, power,
      zpow_add₀ (by norm_num), zpow_one, ← mul_assoc]
    norm_num

/-- All bits are a count of units of some size. -/
theorem exists_scaled
    (bits : ℕ) :
    ∃ shift count,
      bits = shift * 2 ^ 52 + count ∧ count < 2 ^ 53 ∧ (shift = 0 ∨ 2 ^ 52 ≤ count) :=
  ⟨bits / 2 ^ 52 - 1, bits - (bits / 2 ^ 52 - 1) * 2 ^ 52, by omega, by omega, by omega⟩

/-- Greater bits are those of greater doubles. -/
theorem strictMono_doubleMagnitude :
    StrictMono doubleMagnitude := by
  refine strictMono_nat_of_lt_succ fun bits => ?_
  obtain ⟨shift, count, rfl, upper, lower⟩ := exists_scaled bits
  rw [Nat.add_assoc, doubleMagnitude_scaled upper.le lower,
    doubleMagnitude_scaled (Nat.succ_le_of_lt upper) (lower.imp_right (by omega))]
  apply mul_lt_mul_of_pos_right
  · exact_mod_cast Nat.lt_succ_self count
  · positivity

/-! ## Nearest doubles -/

/-- The bits are nearest among all, as if no exponent were too great, and even at a tie. -/
structure IsNearestEven
    (value : ℚ)
    (bits : ℕ) :
    Prop where
  nearest : ∀ other, |value - doubleMagnitude bits| ≤ |value - doubleMagnitude other|
  even :
    ∀ other,
      other ≠ bits → |value - doubleMagnitude other| = |value - doubleMagnitude bits| →
        bits % 2 = 0

/-- What lies between two neighbours is rounded to the lower one in the lower half. -/
theorem isNearestEven_low
    {value : ℚ}
    {bits : ℕ}
    (above : doubleMagnitude bits ≤ value)
    (half : 2 * (value - doubleMagnitude bits) ≤
      doubleMagnitude (bits + 1) - doubleMagnitude bits)
    (tie : 2 * (value - doubleMagnitude bits) =
      doubleMagnitude (bits + 1) - doubleMagnitude bits → bits % 2 = 0) :
    IsNearestEven value bits := by
  have distance : |value - doubleMagnitude bits| = value - doubleMagnitude bits :=
    abs_of_nonneg (sub_nonneg.mpr above)
  have behind (other : ℕ) (greater : bits < other) :
      doubleMagnitude (bits + 1) - value ≤ |value - doubleMagnitude other| := by
    have further := strictMono_doubleMagnitude.monotone (Nat.succ_le_of_lt greater)
    rw [abs_sub_comm]
    exact (sub_le_sub_right further value).trans (le_abs_self _)
  have before (other : ℕ) (less : other < bits) :
      value - doubleMagnitude bits < |value - doubleMagnitude other| := by
    have further := strictMono_doubleMagnitude less
    exact (sub_lt_sub_left further value).trans_le (le_abs_self _)
  constructor
  · intro other
    rw [distance]
    rcases Nat.lt_trichotomy other bits with less | rfl | greater
    · exact (before other less).le
    · exact le_abs_self _
    · have far := behind other greater
      linarith
  · intro other differs same
    rw [distance] at same
    rcases Nat.lt_or_gt_of_ne differs with less | greater
    · have nearer := before other less
      linarith
    · have far := behind other greater
      exact tie (by linarith)

/-- What lies between two neighbours is rounded to the higher one in the higher half. -/
theorem isNearestEven_high
    {value : ℚ}
    {bits : ℕ}
    (below : value ≤ doubleMagnitude (bits + 1))
    (half : doubleMagnitude (bits + 1) - doubleMagnitude bits ≤
      2 * (value - doubleMagnitude bits))
    (tie : 2 * (value - doubleMagnitude bits) =
      doubleMagnitude (bits + 1) - doubleMagnitude bits → bits % 2 = 1) :
    IsNearestEven value (bits + 1) := by
  have distance : |value - doubleMagnitude (bits + 1)| = doubleMagnitude (bits + 1) - value := by
    rw [abs_sub_comm, abs_of_nonneg (sub_nonneg.mpr below)]
  have before (other : ℕ) (less : other < bits + 1) :
      value - doubleMagnitude bits ≤ |value - doubleMagnitude other| := by
    have further := strictMono_doubleMagnitude.monotone (Nat.le_of_lt_succ less)
    exact (sub_le_sub_left further value).trans (le_abs_self _)
  have behind (other : ℕ) (greater : bits + 1 < other) :
      doubleMagnitude (bits + 1) - value < |value - doubleMagnitude other| := by
    have further := strictMono_doubleMagnitude greater
    rw [abs_sub_comm]
    exact (sub_lt_sub_right further value).trans_le (le_abs_self _)
  constructor
  · intro other
    rw [distance]
    rcases Nat.lt_trichotomy other (bits + 1) with less | rfl | greater
    · have far := before other less
      linarith
    · rw [distance]
    · exact (behind other greater).le
  · intro other differs same
    rw [distance] at same
    rcases Nat.lt_or_gt_of_ne differs with less | greater
    · have far := before other less
      have odd := tie (by linarith)
      omega
    · have nearer := behind other greater
      linarith

/-- The greatest finite double. -/
theorem doubleMagnitude_greatest :
    doubleMagnitude (infiniteBits - 1) = 2 ^ 1024 - 2 ^ 971 := by
  have shape : infiniteBits - 1 = 2045 * 2 ^ 52 + (2 ^ 53 - 1) := by
    decide
  have power : ((2045 : ℕ) : ℤ) - 1074 = (971 : ℕ) := by
    norm_num
  have total : (2 : ℚ) ^ 1024 = 2 ^ 53 * 2 ^ 971 := by
    rw [← pow_add]
  rw [shape, doubleMagnitude_scaled (by omega) (by omega), power, zpow_natCast, total,
    Nat.cast_sub (by omega), Nat.cast_pow, Nat.cast_ofNat, Nat.cast_one, sub_mul, one_mul]

/-- Where the scale goes on behind the finite doubles. -/
theorem doubleMagnitude_infiniteBits :
    doubleMagnitude infiniteBits = 2 ^ 1024 := by
  have shape : infiniteBits = 2045 * 2 ^ 52 + 2 ^ 53 := by
    decide
  have power : ((2045 : ℕ) : ℤ) - 1074 = (971 : ℕ) := by
    norm_num
  rw [shape, doubleMagnitude_scaled le_rfl (by omega), power, zpow_natCast, Nat.cast_pow,
    Nat.cast_ofNat, ← pow_add]

/-- What is more than half a unit below a bound is nearer to the place one unit below it. -/
theorem abs_sub_lt_of_bounded
    {value bound half far : ℚ}
    (positive : 0 < half)
    (bounded : value < bound - half)
    (beyond : bound ≤ far) :
    |value - (bound - 2 * half)| < |value - far| := by
  rw [abs_sub_comm value far, abs_of_pos (by linarith : 0 < far - value), abs_lt]
  constructor <;> linarith

/-- Below the bound of finite doubles, what is nearest among all bits is finite. -/
theorem IsNearestEven.isNearestDouble
    {value : ℚ}
    {bits : ℕ}
    (rounds : IsNearestEven value bits)
    (bounded : value < 2 ^ 1024 - 2 ^ 970) :
    IsNearestDouble value bits where
  bounded := bounded
  finite := by
    by_contra infinite
    have beyond : (2 : ℚ) ^ 1024 ≤ doubleMagnitude bits := by
      rw [← doubleMagnitude_infiniteBits]
      exact strictMono_doubleMagnitude.monotone (Nat.le_of_not_lt infinite)
    have nearer := rounds.nearest (infiniteBits - 1)
    have unit : (2 : ℚ) ^ 971 = 2 * 2 ^ 970 := pow_succ' 2 970
    rw [doubleMagnitude_greatest, unit] at nearer
    exact absurd nearer (not_le.mpr (abs_sub_lt_of_bounded (by positivity) bounded beyond))
  nearest other _ := rounds.nearest other
  even other _ := rounds.even other

/-- A magnitude is rounded to one double at most. -/
theorem IsNearestDouble.unique
    {value : ℚ}
    {first second : ℕ}
    (isFirst : IsNearestDouble value first)
    (isSecond : IsNearestDouble value second) :
    first = second := by
  have same : |value - doubleMagnitude first| = |value - doubleMagnitude second| :=
    le_antisymm (isFirst.nearest second isSecond.finite) (isSecond.nearest first isFirst.finite)
  wlog ordered : first < second generalizing first second
  · rcases Nat.lt_or_eq_of_le (Nat.le_of_not_lt ordered) with less | equal
    · exact (this isSecond isFirst same.symm less).symm
    · exact equal.symm
  have firstEven := isFirst.even second isSecond.finite ordered.ne' same.symm
  have secondEven := isSecond.even first isFirst.finite ordered.ne same
  -- Between two even neighbours there is a double that is nearer than both.
  have lower := strictMono_doubleMagnitude (Nat.lt_succ_self first)
  have higher : doubleMagnitude (first + 1) < doubleMagnitude second :=
    strictMono_doubleMagnitude (by omega)
  have between := isFirst.nearest (first + 1) (by have := isSecond.finite; omega)
  exfalso
  rcases abs_cases (value - doubleMagnitude first) with ⟨one, _⟩ | ⟨one, _⟩ <;>
    rcases abs_cases (value - doubleMagnitude second) with ⟨two, _⟩ | ⟨two, _⟩ <;>
      rcases abs_cases (value - doubleMagnitude (first + 1)) with ⟨three, _⟩ | ⟨three, _⟩ <;>
        linarith

end InitializerJson
