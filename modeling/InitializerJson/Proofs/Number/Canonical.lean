import InitializerJson.Proofs.Number.LiteralImage

namespace InitializerJson

open Character JsonText

/-!
# Canonical numbers

The numbers that literals write are integers below `2 ^ 64` without their sign,
and real numbers whose text has no leading zero, digits on both sides of a point,
and a small mark before an exponent.
-/

/--
The text of a real number: a sign, digits without a leading zero, a fraction and
an exponent behind a small mark, of which one is present.
-/
structure IsRealText
    (text : List Char) :
    Prop where
  parts : ∃ negative whole fraction exponent,
    WholeText whole ∧ FractionText fraction ∧ ExponentText exponent ∧
      exponent.head? ≠ some 'E' ∧
      text = signText negative ++ (whole ++ (fraction ++ exponent))
  marked : '.' ∈ text ∨ 'e' ∈ text

/-- An integer below `2 ^ 64` without its sign, or a real number with such a text. -/
def Number.IsCanonical : Number → Prop
  | integer value => value.natAbs ≤ 2 ^ 64 - 1
  | real text => IsRealText text.toList

/-- The rendered form of a well-formed numeral is the text of a real number. -/
theorem isRealText_render
    {numeral : RealNumeral}
    (wellFormed : numeral.WellFormed)
    (negative : Bool) :
    IsRealText (numeral.render negative) := by
  rw [RealNumeral.render_eq]
  refine ⟨⟨negative, numeral.normal.whole, numeral.normal.fractionText,
    numeral.normal.exponentText, RealNumeral.wholeText_leadingDigits wellFormed.whole,
    wellFormed.normal.fractionText, wellFormed.normal.exponentText, ?_, rfl⟩, ?_⟩
  · unfold RealNumeral.exponentText
    split <;> simp
  · obtain ⟨front, digits, spelled, _, _, _, marked⟩ :=
      RealNumeral.exists_lastDigits wellFormed
    rw [spelled]
    rcases marked with point | exponent
    · exact .inl (by simp [point])
    · exact .inr (by simp [exponent])

/-- Every number that a literal writes is canonical. -/
theorem Number.IsOfLiteral.isCanonical
    {number : Number}
    (isOfLiteral : number.IsOfLiteral) :
    number.IsCanonical := by
  rcases isOfLiteral.cases with ⟨value, rfl, bounded⟩ | ⟨negative, text, found⟩
  · exact Nat.le_sub_one_of_lt bounded
  · obtain ⟨numeral, wellFormed, _, rfl⟩ := exists_wellFormed_of_ofRealText? found
    rw [IsCanonical, String.toList_ofList]
    exact isRealText_render wellFormed negative

/-- The text of a real number is a JSON number that stands for it. -/
theorem IsRealText.numberText
    {text : List Char}
    (isReal : IsRealText text) :
    NumberText text (.real (String.ofList text)) := by
  obtain ⟨⟨negative, whole, fraction, exponent, digits, pointed, scaled, _, rfl⟩, marked⟩ :=
    isReal
  refine .real digits pointed scaled fun nothing => ?_
  rw [nothing, List.append_nil] at marked
  have plain (mark : Char) (noDigit : mark.isDigit = false) (noSign : mark ≠ '-') :
      mark ∉ signText negative ++ whole := by
    intro member
    rcases List.mem_append.mp member with inSign | inWhole
    · cases negative with
      | true => exact noSign (List.mem_singleton.mp inSign)
      | false => cases inSign
    · exact ne_of_class (digits.isDigit mark inWhole) noDigit rfl
  rcases marked with point | mark
  · exact plain '.' rfl (by decide) point
  · exact plain 'e' rfl (by decide) mark

end InitializerJson
