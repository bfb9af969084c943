import InitializerJson.Proofs.Number.Canonical

namespace InitializerJson

open JsonText

/-!
# Numbers are read again as they are written

Whatever text a number was read from, its own text is a JSON number that stands for it,
and shows by a point or an exponent mark whether it is real.  Read as a literal, with a
minus sign in front taken as the wish to negate, that text gives the same number again.
-/

/-- The text of a number is JSON, shows its nature, and is read as the number again. -/
structure Number.IsNormal
    (number : Number) :
    Prop where
  json : NumberText number.text.toList number
  marked :
    ('.' ∈ number.text.toList ∨ 'e' ∈ number.text.toList) ↔ number.isInteger = false
  reread :
    ofLiteral? (String.ofList (readMinus number.text.toList).2)
        (readMinus number.text.toList).1 =
      some number

/-- A sign is told from the digits that are written behind it. -/
theorem Number.Written.readMinus_text
    {number : Number}
    {negative : Bool}
    {whole fraction exponent : List Char}
    (written : number.Written negative whole fraction exponent) :
    readMinus number.text.toList = (negative, whole ++ (fraction ++ exponent)) := by
  rw [written.spelled, readMinus_signText written.digits]

/-- The text of an integer has no mark of a real number. -/
theorem notMem_text_integer
    {mark : Char}
    (noDigit : mark.isDigit = false)
    (noSign : mark ≠ '-')
    (value : Int) :
    mark ∉ (Number.integer value).text.toList := by
  rw [toList_text_integer, List.mem_append, not_or]
  refine ⟨?_, notMem_decimalDigits noDigit value.natAbs⟩
  unfold signText
  split
  · simpa using noSign
  · simp

/-- A point or an exponent mark tells canonical real numbers from integers. -/
theorem Number.IsCanonical.marked_iff
    {number : Number}
    (canonical : number.IsCanonical) :
    ('.' ∈ number.text.toList ∨ 'e' ∈ number.text.toList) ↔ number.isInteger = false := by
  cases number with
  | integer value =>
      have noPoint : '.' ∉ (Number.integer value).text.toList :=
        notMem_text_integer rfl (by decide) value
      have noMark : 'e' ∉ (Number.integer value).text.toList :=
        notMem_text_integer rfl (by decide) value
      exact iff_of_false (not_or.mpr ⟨noPoint, noMark⟩) Bool.noConfusion
  | real text => exact iff_of_true (IsRealText.marked canonical) rfl

/-- The text of a canonical number is a JSON number that stands for it. -/
theorem Number.IsCanonical.numberText
    {number : Number}
    (canonical : number.IsCanonical) :
    NumberText number.text.toList number := by
  cases number with
  | integer value => exact numberText_integer value
  | real text =>
      have written := IsRealText.numberText canonical
      rwa [String.ofList_toList] at written

/-- Every number that a literal writes is in its normal form. -/
theorem Number.IsOfLiteral.isNormal
    {number : Number}
    (isOfLiteral : number.IsOfLiteral) :
    number.IsNormal where
  json := isOfLiteral.isCanonical.numberText
  marked := isOfLiteral.isCanonical.marked_iff
  reread := by
    obtain ⟨negative, whole, fraction, exponent, written⟩ := isOfLiteral.exists_written
    rw [written.readMinus_text]
    exact written.value

/-- Numbers in their normal form differ in their texts. -/
theorem Number.IsNormal.eq_of_text_eq
    {first second : Number}
    (firstNormal : first.IsNormal)
    (secondNormal : second.IsNormal)
    (same : first.text = second.text) :
    first = second := by
  have reread := firstNormal.reread
  rw [same, secondNormal.reread] at reread
  exact (Option.some.inj reread).symm

/--
What any text is read as, negated or not, is in its normal form, and no other number that
is read from some text is written the same.
-/
theorem isNormal_of_ofLiteral?
    {text : String}
    {negative : Bool}
    {number : Number}
    (found : Number.ofLiteral? text negative = some number) :
    number.IsNormal ∧
      ∀ (otherText : String) (otherNegative : Bool) (other : Number),
        Number.ofLiteral? otherText otherNegative = some other →
        other.text = number.text →
        other = number := by
  have normal : number.IsNormal :=
    Number.IsOfLiteral.isNormal ⟨text, negative, found⟩
  refine ⟨normal, fun otherText otherNegative other otherFound same => ?_⟩
  have otherNormal : other.IsNormal :=
    Number.IsOfLiteral.isNormal ⟨otherText, otherNegative, otherFound⟩
  exact otherNormal.eq_of_text_eq normal same

/-- A negated literal with leading zeros, separators and a suffix is in its normal form. -/
theorem isNormal_of_ofLiteral?_negated :
    Number.ofLiteral? "0_0.50E-0_3F" true = some (.real "-0.50e-03") ∧
      (Number.real "-0.50e-03").IsNormal ∧
      ∀ (otherText : String) (otherNegative : Bool) (other : Number),
        Number.ofLiteral? otherText otherNegative = some other →
        other.text = (Number.real "-0.50e-03").text →
        other = .real "-0.50e-03" := by
  have found : Number.ofLiteral? "0_0.50E-0_3F" true = some (.real "-0.50e-03") := by
    decide +kernel
  exact ⟨found, isNormal_of_ofLiteral? found⟩

end InitializerJson
