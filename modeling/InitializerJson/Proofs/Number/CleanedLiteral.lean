import InitializerJson.Proofs.Number.LiteralValue

namespace InitializerJson

open Character Lexical

/-!
# The literals that are read

Reading a literal cleans it first, and is more lenient than the lexical grammar: a plus
sign may stand before the digits of an integer, and any letters of integer suffixes may
stand at its end.  Every text that is read has, once it is cleaned, a form of these kinds.
-/

/-- The letters behind a cleaned decimal literal: any of integer suffixes, or one of a real one. -/
inductive CleanSuffix : List Char → Prop where
  | integer
      {letters : List Char} :
      (∀ letter ∈ letters, Number.isIntegerSuffix letter = true) →
      CleanSuffix letters
  | real
      {letter : Char} :
      Number.isRealSuffix letter = true →
      CleanSuffix [letter]

/-- The forms of cleaned texts that are read as numbers. -/
inductive CleanLiteral : List Char → Prop where
  | based
      {base : NumeralBase}
      {plus digits letters : List Char} :
      plus = [] ∨ plus = ['+'] →
      digits ≠ [] →
      (∀ digit ∈ digits, Number.isDigitOf base.radix digit = true) →
      (∀ letter ∈ letters, Number.isIntegerSuffix letter = true) →
      CleanLiteral ('0' :: base.mark :: (plus ++ (digits ++ letters)))
  | decimal
      {plus letters : List Char}
      {numeral : RealNumeral} :
      plus = [] ∨ plus = ['+'] →
      numeral.WellFormed →
      CleanSuffix letters →
      CleanLiteral
        (plus ++ (numeral.whole ++ (numeral.fractionText ++ (numeral.exponentText ++ letters))))

/-! ## Parts of a cleaned text -/

/-- What is taken away at the end are letters of integer suffixes. -/
theorem exists_letters
    (text : List Char) :
    ∃ letters,
      text = Number.withoutIntegerSuffix text ++ letters ∧
        ∀ letter ∈ letters, Number.isIntegerSuffix letter = true := by
  refine ⟨(text.reverse.takeWhile Number.isIntegerSuffix).reverse, ?_, ?_⟩
  · rw [Number.withoutIntegerSuffix, ← List.reverse_append, List.takeWhile_append_dropWhile,
      List.reverse_reverse]
  · intro letter member
    exact List.all_eq_true.mp List.all_takeWhile letter (List.mem_reverse.mp member)

/-- Digits that are read as an integer may have a plus sign in front. -/
theorem exists_digits_of_ofDigits?
    {base : Nat}
    {negative : Bool}
    {text : List Char}
    {number : Number}
    (found : Number.ofDigits? base negative text = some number) :
    ∃ plus digits,
      text = plus ++ digits ∧
        (plus = [] ∨ plus = ['+']) ∧
        digits ≠ [] ∧
        ∀ digit ∈ digits, Number.isDigitOf base digit = true := by
  have signed : ∃ plus, (plus = [] ∨ plus = ['+']) ∧ text = plus ++ Number.withoutPlus text := by
    unfold Number.withoutPlus
    split
    · exact ⟨['+'], .inr rfl, rfl⟩
    · exact ⟨[], .inl rfl, rfl⟩
  obtain ⟨plus, isPlus, shape⟩ := signed
  simp only [Number.ofDigits?] at found
  split at found
  · next written =>
      simp only [Bool.and_eq_true, Bool.not_eq_true', List.isEmpty_eq_false_iff,
        List.all_eq_true] at written
      exact ⟨plus, _, shape, isPlus, written.1.1, written.1.2⟩
  · cases found

/-- Digits of the base ten are decimal digits. -/
theorem isDigit_of_isDigitOf_ten
    {character : Char}
    (digit : Number.isDigitOf 10 character = true) :
    character.isDigit = true := by
  obtain ⟨hexadecimal, small⟩ := Bool.and_eq_true_iff.mp digit
  rw [decide_eq_true_eq] at small
  rcases isHexDigit_iff.mp hexadecimal with decimal | lower | capital
  · exact decimal
  · rw [digitValue_of_letter (by omega), if_pos lower.1] at small
    omega
  · rw [digitValue_of_letter capital.1, if_neg (by omega)] at small
    omega

namespace RealNumeral

/-- The parts around the first place of a mark make up the text with it. -/
theorem eq_append_of_splitAt
    (mark : Char)
    (text : List Char) :
    text = (splitAt mark text).1 ++ ((splitAt mark text).2.map (mark :: ·)).getD [] := by
  have whole : text.takeWhile (· != mark) ++ text.dropWhile (· != mark) = text :=
    List.takeWhile_append_dropWhile
  simp only [splitAt]
  cases shape : text.dropWhile (· != mark) with
  | nil =>
      rw [shape, List.append_nil] at whole
      simpa using whole.symm
  | cons first rest =>
      have isMark : first = mark := by
        have head := List.head?_dropWhile_not (· != mark) text
        rw [shape, List.head?_cons] at head
        simpa using head
      rw [shape, isMark] at whole
      simpa using whole.symm

/-- The fraction of a numeral is written behind its point, if there is one. -/
theorem fractionText_eq
    (numeral : RealNumeral) :
    numeral.fractionText = (numeral.fraction.map ('.' :: ·)).getD [] := by
  obtain ⟨_, fraction, _⟩ := numeral
  cases fraction <;> rfl

/-- The exponent of a numeral is written behind its mark, if there is one. -/
theorem exponentText_eq
    (numeral : RealNumeral) :
    numeral.exponentText = (numeral.exponent.map ('e' :: ·)).getD [] := by
  obtain ⟨_, _, exponent⟩ := numeral
  cases exponent <;> rfl

/-- A text that is taken apart is made up of the parts of a well-formed numeral. -/
theorem wellFormed_of_ofText?
    {text : List Char}
    {numeral : RealNumeral}
    (found : ofText? text = some numeral) :
    numeral.WellFormed ∧
      text = numeral.whole ++ (numeral.fractionText ++ numeral.exponentText) := by
  have scaled := eq_append_of_splitAt 'e' text
  have pointed := eq_append_of_splitAt '.' (splitAt 'e' text).1
  simp only [ofText?] at found
  split at found
  · next wellFormed =>
      cases found
      refine ⟨isWellFormed_iff.mp wellFormed, ?_⟩
      rw [fractionText_eq, exponentText_eq, ← List.append_assoc, ← pointed]
      exact scaled
  · cases found

end RealNumeral

/-! ## Forms of cleaned texts -/

/-- Digits of a base with letters behind them are a cleaned literal behind its mark. -/
theorem cleanLiteral_of_based
    (base : NumeralBase)
    {negative : Bool}
    {text : List Char}
    {number : Number}
    (found :
      Number.ofDigits? base.radix negative (Number.withoutIntegerSuffix text) = some number) :
    CleanLiteral ('0' :: base.mark :: text) := by
  obtain ⟨letters, shape, areLetters⟩ := exists_letters text
  obtain ⟨plus, digits, body, isPlus, filled, areDigits⟩ := exists_digits_of_ofDigits? found
  rw [body, List.append_assoc] at shape
  rw [shape]
  exact .based isPlus filled areDigits areLetters

/-- What is read as a real number is a cleaned literal with its suffix. -/
theorem cleanLiteral_of_ofRealText?
    {negative : Bool}
    {body letters : List Char}
    {number : Number}
    (found : Number.ofRealText? negative body = some number)
    (suffixed : CleanSuffix letters) :
    CleanLiteral (body ++ letters) := by
  obtain ⟨numeral, parts, _⟩ := Option.bind_eq_some_iff.mp found
  obtain ⟨wellFormed, shape⟩ := RealNumeral.wellFormed_of_ofText? parts
  rw [shape, List.append_assoc, List.append_assoc]
  exact .decimal (.inl rfl) wellFormed suffixed

/-- What is read as a decimal literal is one of the cleaned forms. -/
theorem cleanLiteral_of_ofDecimalText?
    {negative : Bool}
    {text : List Char}
    {number : Number}
    (found : Number.ofDecimalText? negative text = some number) :
    CleanLiteral text := by
  obtain ⟨letters, shape, areLetters⟩ := exists_letters text
  simp only [Number.ofDecimalText?] at found
  split at found
  · next marked =>
      obtain ⟨letter, last, real⟩ := (Option.any_eq_true Number.isRealSuffix _).mp marked
      rw [← List.dropLast_append_getLast? letter last]
      exact cleanLiteral_of_ofRealText? found (.real real)
  · split at found
    · rw [shape]
      exact cleanLiteral_of_ofRealText? found (.integer areLetters)
    · obtain ⟨plus, digits, body, isPlus, filled, areDigits⟩ := exists_digits_of_ofDigits? found
      have wellFormed : (RealNumeral.mk digits none none).WellFormed :=
        { whole := List.all_eq_true.mpr fun digit member =>
            isDigit_of_isDigitOf_ten (areDigits digit member)
          some := .inl filled
          fraction := by simp
          exponent := by simp }
      rw [shape, body, List.append_assoc]
      exact .decimal isPlus wellFormed (.integer areLetters)

/-- Whatever text is read as a number, it is a cleaned literal once it is cleaned. -/
theorem cleanLiteral_of_ofLiteral?
    {text : String}
    {negative : Bool}
    {number : Number}
    (found : Number.ofLiteral? text negative = some number) :
    CleanLiteral (Number.clean text.toList) := by
  rw [Number.ofLiteral?] at found
  generalize Number.clean text.toList = cleaned at found
  unfold Number.ofCleanText? at found
  split at found
  · exact cleanLiteral_of_based .hexadecimal found
  · exact cleanLiteral_of_based .binary found
  · exact cleanLiteral_of_ofDecimalText? found

end InitializerJson
