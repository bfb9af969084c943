import InitializerJson.Number.Literal
import InitializerJson.Proofs.Json.NumberText

namespace InitializerJson

open Character JsonText

/-!
# The normal form of real numerals

A real numeral is rendered without leading zeros, with a digit before its point
and with a fraction or exponent.  The rendered text is taken apart into the
numeral's normal form, which is rendered the same way and has the same nearest
double up to the bound of finite ones.
-/

namespace RealNumeral

/-- A text is split where its mark first occurs. -/
theorem splitAt_of_mark
    {mark : Char}
    {front rest : List Char}
    (absent : mark ∉ front) :
    splitAt mark (front ++ mark :: rest) = (front, some rest) := by
  have others : ∀ character ∈ front, (character != mark) = true := by
    intro character member
    rw [bne_iff_ne]
    rintro rfl
    exact absent member
  have ends : EndsRun (fun character => character != mark) (mark :: rest) :=
    endsRun_cons (by simp)
  rw [splitAt, takeWhile_append_of_endsRun others ends,
    dropWhile_append_of_endsRun others ends]
  rfl

/-- A text without a mark is not split. -/
theorem splitAt_of_noMark
    {mark : Char}
    {text : List Char}
    (absent : mark ∉ text) :
    splitAt mark text = (text, none) := by
  have others : ∀ character ∈ text, (character != mark) = true := by
    intro character member
    rw [bne_iff_ne]
    rintro rfl
    exact absent member
  have ends : EndsRun (fun character => character != mark) [] := by
    simp [EndsRun]
  have taken := takeWhile_append_of_endsRun others ends
  have dropped := dropWhile_append_of_endsRun others ends
  rw [List.append_nil] at taken dropped
  rw [splitAt, taken, dropped]
  rfl

/-- The numeral in the form that JSON requires, taken apart. -/
def normal
    (numeral : RealNumeral) :
    RealNumeral where
  whole := numeral.leadingDigits
  fraction :=
    match numeral.fraction, numeral.exponent with
    | none, none => some ['0']
    | fraction, _ => fraction
  exponent := numeral.exponent

/-- The point and digits of a fraction. -/
def fractionText
    (numeral : RealNumeral) :
    List Char :=
  match numeral.fraction with
  | none => []
  | some digits => '.' :: digits

/-- The mark, sign and digits of an exponent. -/
def exponentText
    (numeral : RealNumeral) :
    List Char :=
  match numeral.exponent with
  | none => []
  | some digits => 'e' :: digits

/-- What is rendered behind the whole digits is the normal fraction and exponent. -/
theorem trailingText_eq
    (numeral : RealNumeral) :
    numeral.trailingText = numeral.normal.fractionText ++ numeral.normal.exponentText := by
  obtain ⟨whole, fraction, exponent⟩ := numeral
  cases fraction <;> cases exponent <;>
    simp [trailingText, normal, fractionText, exponentText]

/-- The whole digits that are rendered have no leading zero. -/
theorem wholeText_leadingDigits
    {numeral : RealNumeral}
    (digits : numeral.whole.all Char.isDigit = true) :
    WholeText numeral.leadingDigits := by
  unfold leadingDigits
  split
  · exact .zero
  · next nonempty =>
      obtain ⟨first, others, shape⟩ := List.exists_cons_of_ne_nil nonempty
      have inside : ∀ digit ∈ first :: others, digit.isDigit = true := by
        intro digit member
        rw [← shape] at member
        exact List.all_eq_true.mp digits digit ((List.dropWhile_suffix _).mem member)
      obtain ⟨firstDigit, otherDigits⟩ := List.forall_mem_cons.mp inside
      have notZero : first ≠ '0' := by
        have head := List.head?_dropWhile_not (· == '0') numeral.whole
        rw [shape, List.head?_cons] at head
        simpa using head
      rw [shape]
      exact .positive firstDigit notZero otherDigits

/-- The parts of a well-formed numeral. -/
structure WellFormed
    (numeral : RealNumeral) :
    Prop where
  whole : numeral.whole.all Char.isDigit = true
  some : numeral.whole ≠ [] ∨ numeral.fraction.isSome = true
  fraction : ∀ digits ∈ numeral.fraction, areDigits digits = true
  exponent : ∀ text ∈ numeral.exponent, areDigits (Decimal.readSign text).2 = true

/-- A numeral is well formed when its parts are. -/
theorem isWellFormed_iff
    {numeral : RealNumeral} :
    numeral.isWellFormed = true ↔ numeral.WellFormed := by
  constructor
  · intro wellFormed
    simp only [isWellFormed, Bool.and_eq_true, Bool.or_eq_true, Bool.not_eq_true',
      List.isEmpty_eq_false_iff, Option.all_eq_true] at wellFormed
    obtain ⟨⟨⟨whole, nonempty⟩, fraction⟩, exponent⟩ := wellFormed
    exact ⟨whole, nonempty, fraction, exponent⟩
  · rintro ⟨whole, nonempty, fraction, exponent⟩
    simp only [isWellFormed, Bool.and_eq_true, Bool.or_eq_true, Bool.not_eq_true',
      List.isEmpty_eq_false_iff, Option.all_eq_true]
    exact ⟨⟨⟨whole, nonempty⟩, fraction⟩, exponent⟩

/-- Digits, one at least, are told as such. -/
theorem areDigits_iff
    {text : List Char} :
    areDigits text = true ↔ text ≠ [] ∧ ∀ digit ∈ text, digit.isDigit = true := by
  simp [areDigits]

/-- The fraction of a well-formed numeral is one of JSON. -/
theorem WellFormed.fractionText
    {numeral : RealNumeral}
    (wellFormed : numeral.WellFormed) :
    FractionText numeral.fractionText := by
  cases shape : numeral.fraction with
  | none =>
      simp only [RealNumeral.fractionText, shape]
      exact .absent
  | some digits =>
      obtain ⟨nonempty, inside⟩ := areDigits_iff.mp (wellFormed.fraction digits shape)
      simp only [RealNumeral.fractionText, shape]
      exact .present nonempty inside

/-- A text is a sign, which may be absent, and what is read behind it. -/
theorem exists_sign
    (text : List Char) :
    ∃ sign,
      (sign = [] ∨ sign = ['+'] ∨ sign = ['-']) ∧
        text = sign ++ (Decimal.readSign text).2 := by
  unfold Decimal.readSign
  split
  · exact ⟨['-'], .inr (.inr rfl), rfl⟩
  · exact ⟨['+'], .inr (.inl rfl), rfl⟩
  · exact ⟨[], .inl rfl, rfl⟩

/-- The exponent of a well-formed numeral is one of JSON. -/
theorem WellFormed.exponentText
    {numeral : RealNumeral}
    (wellFormed : numeral.WellFormed) :
    ExponentText numeral.exponentText := by
  cases shape : numeral.exponent with
  | none =>
      simp only [RealNumeral.exponentText, shape]
      exact .absent
  | some text =>
      obtain ⟨nonempty, inside⟩ := areDigits_iff.mp (wellFormed.exponent text shape)
      obtain ⟨sign, signed, spelled⟩ := exists_sign text
      simp only [RealNumeral.exponentText, shape]
      rw [spelled]
      exact .present (.inl rfl) signed nonempty inside

/-- The normal form of a well-formed numeral is well formed. -/
theorem WellFormed.normal
    {numeral : RealNumeral}
    (wellFormed : numeral.WellFormed) :
    numeral.normal.WellFormed := by
  have whole := wholeText_leadingDigits wellFormed.whole
  refine ⟨List.all_eq_true.mpr whole.isDigit, .inl whole.ne_nil, ?_, wellFormed.exponent⟩
  intro digits member
  simp only [RealNumeral.normal] at member
  split at member
  · cases member
    decide
  · exact wellFormed.fraction digits member

/-- A well-formed numeral is taken apart as it was put together. -/
theorem ofText?_of_wellFormed
    {numeral : RealNumeral}
    (wellFormed : numeral.WellFormed) :
    ofText? (numeral.whole ++ (numeral.fractionText ++ numeral.exponentText)) =
      some numeral := by
  have wholeDigits := List.all_eq_true.mp wellFormed.whole
  have noPoint : '.' ∉ numeral.whole := by
    intro member
    exact absurd (wholeDigits '.' member) (by decide)
  have noExponent : 'e' ∉ numeral.whole ++ numeral.fractionText := by
    intro member
    rcases List.mem_append.mp member with inWhole | inFraction
    · exact absurd (wholeDigits 'e' inWhole) (by decide)
    · cases shape : numeral.fraction with
      | none => simp [RealNumeral.fractionText, shape] at inFraction
      | some digits =>
          obtain ⟨_, inside⟩ := areDigits_iff.mp (wellFormed.fraction digits shape)
          rw [RealNumeral.fractionText, shape] at inFraction
          rcases List.mem_cons.mp inFraction with point | inDigits
          · cases point
          · exact absurd (inside 'e' inDigits) (by decide)
  have scaled :
      splitAt 'e' (numeral.whole ++ (numeral.fractionText ++ numeral.exponentText)) =
        (numeral.whole ++ numeral.fractionText, numeral.exponent) := by
    rw [← List.append_assoc]
    cases shape : numeral.exponent with
    | none => simpa [RealNumeral.exponentText, shape] using splitAt_of_noMark noExponent
    | some text =>
        simp only [RealNumeral.exponentText, shape]
        exact splitAt_of_mark noExponent
  have pointed :
      splitAt '.' (numeral.whole ++ numeral.fractionText) =
        (numeral.whole, numeral.fraction) := by
    cases shape : numeral.fraction with
    | none => simpa [RealNumeral.fractionText, shape] using splitAt_of_noMark noPoint
    | some digits =>
        simp only [RealNumeral.fractionText, shape]
        exact splitAt_of_mark noPoint
  simp only [ofText?, scaled, pointed]
  exact if_pos (isWellFormed_iff.mpr wellFormed)

/-- What is rendered is the text of the normal form. -/
theorem render_eq
    (negative : Bool)
    (numeral : RealNumeral) :
    numeral.render negative =
      signText negative ++
        (numeral.normal.whole ++
          (numeral.normal.fractionText ++ numeral.normal.exponentText)) := by
  rw [render, trailingText_eq, List.append_assoc]
  rfl

/-- Digits without a leading zero are rendered as they are. -/
theorem leadingDigits_of_wholeText
    {numeral : RealNumeral}
    (whole : WholeText numeral.whole) :
    numeral.leadingDigits = numeral.whole := by
  unfold leadingDigits
  cases shape : numeral.whole with
  | nil => exact absurd shape whole.ne_nil
  | cons first others =>
      rw [shape] at whole
      cases whole with
      | zero => rfl
      | positive _ notZero _ => simp [notZero]

/-- The normal form is its own normal form. -/
theorem normal_normal
    {numeral : RealNumeral}
    (wellFormed : numeral.WellFormed) :
    numeral.normal.normal = numeral.normal := by
  have leading : numeral.normal.leadingDigits = numeral.normal.whole :=
    leadingDigits_of_wholeText (wholeText_leadingDigits wellFormed.whole)
  have pointed :
      numeral.normal.normal.fraction = numeral.normal.fraction := by
    obtain ⟨whole, fraction, exponent⟩ := numeral
    cases fraction <;> cases exponent <;> rfl
  have parts :
      numeral.normal.normal =
        ⟨numeral.normal.leadingDigits, numeral.normal.normal.fraction,
          numeral.normal.exponent⟩ := rfl
  rw [parts, leading, pointed]

/-- A zero in front does not count. -/
theorem positionalValue_zero_cons
    (digits : List Char) :
    positionalValue 10 ('0' :: digits) = positionalValue 10 digits := by
  rfl

/-- A zero at the end counts ten times what stands before it. -/
theorem positionalValue_append_zero
    (digits : List Char) :
    positionalValue 10 (digits ++ ['0']) = 10 * positionalValue 10 digits := by
  rw [positionalValue, List.foldl_append]
  rfl

/-- Leading zeros do not count. -/
theorem positionalValue_dropZeros
    (whole rest : List Char) :
    positionalValue 10 (whole.dropWhile (· == '0') ++ rest) =
      positionalValue 10 (whole ++ rest) := by
  induction whole with
  | nil => rfl
  | cons first others hypothesis =>
      by_cases zero : first = '0'
      · subst zero
        rw [List.cons_append, positionalValue_zero_cons, ← hypothesis]
        rfl
      · rw [List.dropWhile_cons_of_neg (by simpa using zero)]

/-- The digits that are rendered have the value of those that were written. -/
theorem positionalValue_leadingDigits
    (numeral : RealNumeral)
    (rest : List Char) :
    positionalValue 10 (numeral.leadingDigits ++ rest) =
      positionalValue 10 (numeral.whole ++ rest) := by
  rw [← positionalValue_dropZeros numeral.whole, leadingDigits]
  split
  · next none =>
      rw [none]
      exact positionalValue_zero_cons rest
  · rfl

/-- Ten times a coefficient with one power of ten less is finite as before. -/
theorem isFinite_shift
    (negative : Bool)
    (coefficient : Nat) :
    (Decimal.mk negative (10 * coefficient) (-1)).isFinite =
      (Decimal.mk negative coefficient 0).isFinite := by
  by_cases zero : coefficient = 0
  · subst zero
    simp [Decimal.isFinite]
  have large : 1 ≤ (10 * coefficient).log2 := by
    rw [Nat.le_log2 (by omega)]
    omega
  unfold Decimal.isFinite
  generalize Decimal.overflowBound = bound
  have scaled : 10 * coefficient < bound * 10 ↔ coefficient < bound := by
    omega
  have notSmall : ¬ (10 * coefficient).log2 < 1 := by
    omega
  have notZero : 10 * coefficient ≠ 0 := by
    omega
  simp [zero, notZero, notSmall, scaled]

/-- The normal form is finite exactly when the numeral is. -/
theorem isFinite_normal
    (negative : Bool)
    (numeral : RealNumeral) :
    (numeral.normal.toDecimal negative).isFinite =
      (numeral.toDecimal negative).isFinite := by
  obtain ⟨whole, fraction, exponent⟩ := numeral
  have leading := positionalValue_leadingDigits ⟨whole, fraction, exponent⟩
  cases fraction with
  | some digits =>
      simp [toDecimal, normal, Decimal.ofParts, leading]
  | none =>
      cases exponent with
      | some text =>
          have wholeValue := leading []
          rw [List.append_nil, List.append_nil] at wholeValue
          simp [toDecimal, normal, Decimal.ofParts, wholeValue]
      | none =>
          have shifted := isFinite_shift negative (positionalValue 10 whole)
          have appended := positionalValue_append_zero whole
          simpa [toDecimal, normal, Decimal.ofParts, leading, appended] using shifted

/-- The text that a finite numeral is rendered as writes the same number. -/
theorem ofRealText?_normal
    {numeral : RealNumeral}
    (wellFormed : numeral.WellFormed)
    {negative : Bool}
    (finite : (numeral.toDecimal negative).isFinite = true) :
    Number.ofRealText? negative
        (numeral.normal.whole ++
          (numeral.normal.fractionText ++ numeral.normal.exponentText)) =
      some (.real (String.ofList (numeral.render negative))) := by
  have same : numeral.normal.render negative = numeral.render negative := by
    rw [render_eq, normal_normal wellFormed, render_eq]
  rw [Number.ofRealText?, ofText?_of_wellFormed wellFormed.normal, Option.bind_some,
    isFinite_normal, if_pos finite, same]

end RealNumeral

end InitializerJson
