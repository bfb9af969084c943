import InitializerJson.Proofs.Number.Canonical
import InitializerJson.Proofs.Number.NearestDouble

namespace InitializerJson

open Character JsonText

/-!
# Numbers as bounded readers take them

A reader of JSON holds an integer exactly where it fits in 64 bits, with or without a
sign, and takes any other number for the nearest double.  A number that a literal writes
becomes what such a reader makes of its text, unless it is an integer below the bound of
signed ones, for which there is nothing.
-/

/-- The integers that fit in 64 bits, with or without a sign. -/
def FitsInWord
    (value : ℤ) :
    Prop :=
  -2 ^ 63 ≤ value ∧ value < 2 ^ 64

/-- What a reader of JSON with bounded numbers makes of a number. -/
inductive Number.ReadsAs : Number → JsonNumber → Prop where
  | exact
      {value : ℤ} :
      FitsInWord value →
      ReadsAs (.integer value) (.integer value)
  | rounded
      {value : ℤ}
      {bits : ℕ} :
      ¬ FitsInWord value →
      IsNearestDouble value.natAbs bits →
      ReadsAs (.integer value) (.double (signedDouble (decide (value < 0)) bits))
  | real
      {negative : Bool}
      {text : List Char}
      {value : ℚ}
      {bits : ℕ} :
      WritesRational text value →
      IsNearestDouble value bits →
      ReadsAs (.real (String.ofList (signText negative ++ text)))
        (.double (signedDouble negative bits))

/-- What writes a rational number does not begin with a minus sign. -/
theorem WritesRational.head?_ne_minus
    {text : List Char}
    {value : ℚ}
    (writes : WritesRational text value) :
    text.head? ≠ some '-' := by
  obtain @⟨whole, fraction, exponent, _, _, inside, filled, pointed, _⟩ := writes
  cases whole with
  | cons first others =>
      have digit := inside first List.mem_cons_self
      simpa using ne_of_class digit rfl
  | nil =>
      cases pointed with
      | absent => simp at filled
      | present _ _ => simp

/-- A sign is told from what begins with none. -/
theorem signText_append_inj
    {first second : Bool}
    {firstText secondText : List Char}
    (firstPlain : firstText.head? ≠ some '-')
    (secondPlain : secondText.head? ≠ some '-')
    (same : signText first ++ firstText = signText second ++ secondText) :
    first = second ∧ firstText = secondText := by
  cases first <;> cases second
  · exact ⟨rfl, same⟩
  · rw [signText, signText, if_neg Bool.false_ne_true, if_pos rfl, List.nil_append] at same
    rw [same] at firstPlain
    exact absurd rfl firstPlain
  · rw [signText, signText, if_neg Bool.false_ne_true, if_pos rfl, List.nil_append] at same
    rw [← same] at secondPlain
    exact absurd rfl secondPlain
  · exact ⟨rfl, List.append_cancel_left same⟩

/-- A number is read as one bounded number at most. -/
theorem Number.ReadsAs.unique
    {number : Number}
    {first second : JsonNumber}
    (readsFirst : number.ReadsAs first)
    (readsSecond : number.ReadsAs second) :
    first = second := by
  cases readsFirst with
  | exact fits =>
      cases readsSecond with
      | exact _ => rfl
      | rounded large _ => exact absurd fits large
  | rounded large nearest =>
      cases readsSecond with
      | exact fits => exact absurd fits large
      | rounded _ isNearest => rw [nearest.unique isNearest]
  | @real negative text value bits writes nearest =>
      generalize shape : String.ofList (signText negative ++ text) = written at readsSecond
      obtain _ | _ | @⟨other, otherText, _, _, isWritten, isNearest⟩ := readsSecond
      obtain ⟨rfl, rfl⟩ := signText_append_inj writes.head?_ne_minus isWritten.head?_ne_minus
        (String.ofList_injective shape)
      obtain rfl := writes.unique isWritten
      rw [nearest.unique isNearest]

/-! ## Real numbers -/

namespace RealNumeral

/-- A sign is read before digits. -/
theorem readSign_signText
    {negative : Bool}
    {whole rest : List Char}
    (filled : whole ≠ [])
    (areDigits : ∀ digit ∈ whole, digit.isDigit = true) :
    Decimal.readSign (signText negative ++ (whole ++ rest)) = (negative, whole ++ rest) := by
  obtain ⟨first, others, rfl⟩ := List.exists_cons_of_ne_nil filled
  have digit := areDigits first List.mem_cons_self
  cases negative with
  | true => rfl
  | false =>
      change Decimal.readSign (first :: (others ++ rest)) = _
      unfold Decimal.readSign
      split
      · next shape =>
          cases shape
          cases digit
      · next shape =>
          cases shape
          cases digit
      · rfl

/-- The fraction of a numeral is read before its exponent. -/
theorem readFraction_fractionText
    {numeral : RealNumeral}
    (wellFormed : numeral.WellFormed) :
    Decimal.readFraction (numeral.fractionText ++ numeral.exponentText) =
      (numeral.fraction.getD [], numeral.exponentText) := by
  obtain ⟨whole, fraction, exponent⟩ := numeral
  cases fraction with
  | none => cases exponent <;> rfl
  | some digits =>
      have inside := (areDigits_iff.mp (wellFormed.fraction digits rfl)).2
      have ends : EndsRun Char.isDigit (RealNumeral.exponentText ⟨whole, some digits, exponent⟩) := by
        cases exponent with
        | none => simp [EndsRun, exponentText]
        | some text => exact endsRun_cons (by decide)
      change (List.takeWhile _ (digits ++ _), List.dropWhile _ (digits ++ _)) = _
      rw [takeWhile_append_of_endsRun inside ends, dropWhile_append_of_endsRun inside ends]
      rfl

/-- The exponent of a numeral is read as its power of ten. -/
theorem exponent?_exponentText
    {numeral : RealNumeral}
    (wellFormed : numeral.WellFormed) :
    Decimal.exponent? numeral.exponentText = some numeral.power := by
  obtain ⟨whole, fraction, exponent⟩ := numeral
  cases exponent with
  | none => rfl
  | some text =>
      have digits := wellFormed.exponent text rfl
      simp only [areDigits, Bool.and_eq_true] at digits
      simp [exponentText, Decimal.exponent?, RealNumeral.power, digits.1, digits.2]

/-- The text of a signed numeral is read as its decimal. -/
theorem decimalOfText?_of_wellFormed
    {numeral : RealNumeral}
    (wellFormed : numeral.WellFormed)
    (filled : numeral.whole ≠ [])
    (negative : Bool) :
    Decimal.ofText?
        (signText negative ++
          (numeral.whole ++ (numeral.fractionText ++ numeral.exponentText))) =
      some (numeral.toDecimal negative) := by
  have inside := List.all_eq_true.mp wellFormed.whole
  have ends : EndsRun Char.isDigit (numeral.fractionText ++ (numeral.exponentText ++ [])) :=
    endsRun_whole wellFormed.fractionText wellFormed.exponentText (by simp [EndsRun])
  rw [List.append_nil] at ends
  have notEmpty : numeral.whole.isEmpty = false := by
    simpa using filled
  simp only [Decimal.ofText?, readSign_signText filled inside,
    takeWhile_append_of_endsRun inside ends, dropWhile_append_of_endsRun inside ends,
    readFraction_fractionText wellFormed, notEmpty, Bool.false_and, Bool.false_eq_true, if_false,
    exponent?_exponentText wellFormed, Option.map_some]
  rfl

end RealNumeral

/-! ## Numbers of literals -/

/-- Whether a number is an integer below all that fit in 64 bits. -/
def Number.isBelowWord : Number → Bool
  | integer value => value < -2 ^ 63
  | real _ => false

/-- A real number that is read from a text becomes the double that its own text is read as. -/
theorem exists_readsAs_real
    {negative : Bool}
    {text : List Char}
    {number : Number}
    (found : Number.ofRealText? negative text = some number) :
    ∃ read,
      number.ReadsAs read ∧ number.toJsonNumber? = some read ∧ number.isBelowWord = false := by
  obtain ⟨numeral, wellFormed, finite, rfl⟩ := exists_wellFormed_of_ofRealText? found
  have whole := RealNumeral.wholeText_leadingDigits wellFormed.whole
  have decimal := RealNumeral.decimalOfText?_of_wellFormed wellFormed.normal whole.ne_nil negative
  have writes := wellFormed.normal.writesRational negative
  rw [numeral.magnitude_normal negative] at writes
  have bounded := (numeral.toDecimal negative).isFinite_iff.mp finite
  have rounds := (numeral.normal.toDecimal negative).isNearestEven_magnitudeBits
  rw [numeral.magnitude_normal negative] at rounds
  have nearest := rounds.isNearestDouble bounded
  refine ⟨.double (signedDouble negative (numeral.normal.toDecimal negative).magnitudeBits),
    ?_, ?_, rfl⟩
  · rw [RealNumeral.render_eq]
    exact .real writes nearest
  · have double : (numeral.normal.toDecimal negative).toDouble? =
        some (signedDouble negative (numeral.normal.toDecimal negative).magnitudeBits) :=
      Decimal.toDouble?_eq_some_iff.mpr ⟨_, by rwa [numeral.magnitude_normal negative], rfl⟩
    rw [Number.toJsonNumber?, String.toList_ofList, RealNumeral.render_eq, decimal,
      Option.bind_some, double, Option.map_some]

/-- An integer below `2 ^ 64` without its sign has a nearest double. -/
theorem isNearestDouble_of_lt
    {value : ℕ}
    (small : value < 2 ^ 64) :
    IsNearestDouble value (Decimal.mk false value 0).magnitudeBits := by
  have rounds := (Decimal.mk false value 0).isNearestEven_magnitudeBits
  rw [Decimal.magnitude_of_nonneg le_rfl] at rounds
  have bound : 2 ^ 64 ≤ Decimal.overflowBound := by
    decide +kernel
  have bounded : (value : ℚ) < 2 ^ 1024 - 2 ^ 970 := by
    rw [← Decimal.cast_overflowBound, Nat.cast_lt]
    exact small.trans_le bound
  rw [Int.toNat_zero, pow_zero, Nat.mul_one] at rounds
  exact rounds.isNearestDouble bounded

/--
A number that a literal writes is read as one bounded number, and becomes that number
unless it is below all that fit in 64 bits.
-/
theorem Number.IsOfLiteral.exists_readsAs
    {number : Number}
    (isOfLiteral : number.IsOfLiteral) :
    ∃ read,
      number.ReadsAs read ∧
        number.toJsonNumber? = if number.isBelowWord then none else some read := by
  rcases isOfLiteral.cases with ⟨value, rfl, small⟩ | ⟨negative, text, found⟩
  · by_cases below : value < -2 ^ 63
    · have nearest := isNearestDouble_of_lt small
      refine ⟨_, .rounded (fun fits => absurd fits.1 (not_le.mpr below)) nearest, ?_⟩
      have outside : ¬ (-(2 ^ 63 : ℕ) ≤ value ∧ value < (2 ^ 64 : ℕ)) := by
        omega
      simp only [toJsonNumber?, isBelowWord, below]
      simpa using outside
    · have fits : FitsInWord value := by
        unfold FitsInWord
        omega
      refine ⟨_, .exact fits, ?_⟩
      have inside : -(2 ^ 63 : ℕ) ≤ value ∧ value < (2 ^ 64 : ℕ) := by
        omega
      simp only [toJsonNumber?, isBelowWord, below]
      simpa using inside
  · obtain ⟨read, reads, bounded, notBelow⟩ := exists_readsAs_real found
    refine ⟨read, reads, ?_⟩
    rw [notBelow, bounded]
    rfl

end InitializerJson
