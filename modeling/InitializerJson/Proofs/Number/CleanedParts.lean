import InitializerJson.Proofs.Number.CleanedLiteral
import InitializerJson.Proofs.Number.SeparatedText

namespace InitializerJson

open Character JsonText Lexical

/-!
# Parts of numerals by their cleaned form

Where separators stand only behind characters that admit them, the cleaned form of a
part tells what the part is: digits of a base, a fraction, an exponent or a suffix.
-/

/-! ## Digits of bases -/

/-- The digits of a base are hexadecimal ones. -/
theorem isHexDigit_of_isDigit_base
    {base : NumeralBase}
    {character : Char}
    (digit : base.isDigit character = true) :
    isHexDigit character = true := by
  cases base with
  | hexadecimal => exact digit
  | binary =>
      rcases Bool.or_eq_true_iff.mp digit with zero | one
      · rw [eq_of_beq zero]
        rfl
      · rw [eq_of_beq one]
        rfl

/-- A character with the small form of a hexadecimal digit is one. -/
theorem isHexDigit_of_toLower
    {character : Char}
    (digit : isHexDigit character.toLower = true) :
    isHexDigit character = true := by
  rcases toLower_cases character with same | ⟨upper, lower⟩
  · rwa [same] at digit
  · have code := toNat_toLower_of_isUpper upper
    have capital := isUpper_iff.mp upper
    have small := isLower_iff.mp lower
    apply isHexDigit_iff.mpr
    rcases isHexDigit_iff.mp digit with decimal | inside | outside
    · have bound := toNat_of_isDigit decimal
      omega
    · right; right
      omega
    · omega

/-- A character that is cleaned to a digit of a base is a digit of that base. -/
theorem NumeralBase.isDigit_of_isDigitOf
    {base : NumeralBase}
    {character : Char}
    (digit : Number.isDigitOf base.radix character.toLower = true) :
    base.isDigit character = true := by
  obtain ⟨hexadecimal, small⟩ := Bool.and_eq_true_iff.mp digit
  cases base with
  | hexadecimal => exact isHexDigit_of_toLower hexadecimal
  | binary =>
      rw [decide_eq_true_eq] at small
      have bound : digitValue character.toLower < 2 := small
      have decimal : character.toLower.isDigit = true := by
        apply isDigit_of_isDigitOf_ten
        simp only [Number.isDigitOf, hexadecimal, Bool.true_and, decide_eq_true_eq]
        omega
      have isDigit := isDigit_of_toLower decimal
      rw [toLower_of_isDigit isDigit, digitValue_of_isDigit isDigit] at bound
      have range := toNat_of_isDigit isDigit
      have zero : '0'.toNat = 48 := rfl
      have one : '1'.toNat = 49 := rfl
      have code : character.toNat = '0'.toNat ∨ character.toNat = '1'.toNat := by
        omega
      rcases code with isZero | isOne
      · rw [Char.toNat_inj.mp isZero]
        rfl
      · rw [Char.toNat_inj.mp isOne]
        rfl

/-! ## Fractions, exponents and suffixes -/

/-- The letters of integer suffixes are two. -/
theorem isIntegerSuffix_iff
    {letter : Char} :
    Number.isIntegerSuffix letter = true ↔ letter = 'u' ∨ letter = 'l' := by
  simp [Number.isIntegerSuffix]

/-- Letters of integer suffixes without repetition are such a suffix, if there are any. -/
theorem eq_nil_or_mem_integerSuffixes
    {letters : List Char}
    (areLetters : ∀ letter ∈ letters, Number.isIntegerSuffix letter = true)
    (once : letters.count 'u' ≤ 1 ∧ letters.count 'l' ≤ 1) :
    letters = [] ∨ letters ∈ integerSuffixes := by
  have isLetter : ∀ letter ∈ letters, letter = 'u' ∨ letter = 'l' :=
    fun letter member => isIntegerSuffix_iff.mp (areLetters letter member)
  rcases letters with _ | ⟨first, _ | ⟨second, _ | ⟨third, others⟩⟩⟩
  · exact .inl rfl
  · rcases isLetter first (by simp) with rfl | rfl <;> decide
  · rcases isLetter first (by simp) with rfl | rfl <;>
      rcases isLetter second (by simp) with rfl | rfl <;> revert once <;> decide
  · -- Of three letters two are the same.
    exfalso
    rcases isLetter first (by simp) with rfl | rfl <;>
      rcases isLetter second (by simp) with rfl | rfl <;>
        rcases isLetter third (by simp) with rfl | rfl <;>
          simp at once

section Parts

variable {based : Bool} {text : List Char}

/-- What is cleaned to letters of an integer suffix without repetition is such a suffix. -/
theorem suffixText_of_isIntegerSuffix
    (separated : EachBehind '_' (admitsSeparator based) text)
    (areLetters : ∀ letter ∈ Number.clean text, Number.isIntegerSuffix letter = true)
    (once : (Number.clean text).count 'u' ≤ 1 ∧ (Number.clean text).count 'l' ≤ 1) :
    SuffixText integerSuffixes text := by
  rcases eq_nil_or_mem_integerSuffixes areLetters once with nothing | member
  · rw [eq_nil_of_clean separated nothing]
    exact .absent
  · have closed : ∀ letter ∈ Number.clean text, admitsSeparator based letter = false := by
      intro letter among
      rcases isIntegerSuffix_iff.mp (areLetters letter among) with rfl | rfl <;>
        cases based <;> decide
    rw [← map_toLower_of_clean separated closed] at member
    exact .present member

/-- What is cleaned to a mark that admits no separator is that mark, in either case. -/
theorem exists_mark_of_clean
    {mark : Char}
    (separated : EachBehind '_' (admitsSeparator based) text)
    (closed : admitsSeparator based mark = false)
    (cleaned : Number.clean text = [mark]) :
    ∃ written, text = [written] ∧ written.toLower = mark := by
  have lower : text.map Char.toLower = [mark] := by
    rw [← cleaned]
    apply map_toLower_of_clean separated
    simpa [cleaned] using closed
  obtain ⟨written, others, rfl, isMark, nothing⟩ := List.map_eq_cons_iff.mp lower
  rw [List.map_eq_nil_iff.mp nothing]
  exact ⟨written, rfl, isMark⟩

/-- What is cleaned to a mark that is no letter and admits no separator is just that mark. -/
theorem eq_mark_of_clean
    {mark : Char}
    (separated : EachBehind '_' (admitsSeparator based) text)
    (closed : admitsSeparator based mark = false)
    (noLetter : mark.isLower = false)
    (cleaned : Number.clean text = [mark]) :
    text = [mark] := by
  obtain ⟨written, rfl, lower⟩ := exists_mark_of_clean separated closed cleaned
  rw [eq_of_toLower noLetter lower]

/-- What is cleaned to a fraction is one. -/
theorem pointedText_of_clean
    {fraction : Option (List Char)}
    (separated : EachBehind '_' (admitsSeparator based) text)
    (areDigits : ∀ digits ∈ fraction, RealNumeral.areDigits digits = true)
    (cleaned : Number.clean text = (fraction.map ('.' :: ·)).getD []) :
    PointedText text := by
  cases fraction with
  | none =>
      rw [eq_nil_of_clean separated cleaned]
      exact .absent
  | some digits =>
      obtain ⟨filled, inside⟩ := RealNumeral.areDigits_iff.mp (areDigits digits rfl)
      have shape : Number.clean text = ['.'] ++ digits := cleaned
      obtain ⟨point, written, rfl, ⟨pointSeparated, isPoint⟩, isSeparated, rfl⟩ :=
        exists_parts separated shape
      have closed : admitsSeparator based '.' = false := by
        cases based <;> decide
      obtain rfl := eq_mark_of_clean pointSeparated closed rfl isPoint
      exact .present (digitsText_of_clean isSeparated filled inside)

/-- What is cleaned to a sign is that sign. -/
theorem eq_sign_of_clean
    {sign : List Char}
    (separated : EachBehind '_' (admitsSeparator based) text)
    (signed : sign = [] ∨ sign = ['+'] ∨ sign = ['-'])
    (cleaned : Number.clean text = sign) :
    text = sign := by
  rcases signed with rfl | rfl | rfl
  · exact eq_nil_of_clean separated cleaned
  · exact eq_mark_of_clean separated (by cases based <;> decide) rfl cleaned
  · exact eq_mark_of_clean separated (by cases based <;> decide) rfl cleaned

/-- What is cleaned to an exponent is one. -/
theorem scaledText_of_clean
    {exponent : Option (List Char)}
    (separated : EachBehind '_' (admitsSeparator false) text)
    (areDigits :
      ∀ written ∈ exponent, RealNumeral.areDigits (Decimal.readSign written).2 = true)
    (cleaned : Number.clean text = (exponent.map ('e' :: ·)).getD []) :
    ScaledText text := by
  cases exponent with
  | none =>
      rw [eq_nil_of_clean separated cleaned]
      exact .absent
  | some signedDigits =>
      obtain ⟨filled, inside⟩ := RealNumeral.areDigits_iff.mp (areDigits signedDigits rfl)
      obtain ⟨sign, signed, spelled⟩ := RealNumeral.exists_sign signedDigits
      have shape : Number.clean text = ['e'] ++ signedDigits := cleaned
      obtain ⟨front, behind, rfl, ⟨markSeparated, isMark⟩, behindSeparated, rest⟩ :=
        exists_parts separated shape
      obtain ⟨mark, rfl, lower⟩ := exists_mark_of_clean markSeparated (by decide) isMark
      obtain ⟨written, digits, rfl, ⟨signSeparated, isSign⟩, isSeparated, isDigits⟩ :=
        exists_parts behindSeparated (rest.trans spelled)
      obtain rfl := eq_sign_of_clean signSeparated signed isSign
      rw [← isDigits] at filled inside
      have isDigitsText := digitsText_of_clean isSeparated filled inside
      change ScaledText (mark :: (written ++ digits))
      exact .present lower signed isDigitsText

/-- One of some suffixes is one of more. -/
theorem suffixText_of_subset
    {suffixes more : List (List Char)}
    (among : suffixes ⊆ more)
    (written : SuffixText suffixes text) :
    SuffixText more text := by
  cases written with
  | absent => exact .absent
  | present member => exact .present (among member)

/-- What is cleaned to a suffix is one, of a real number if it has no integer letter. -/
theorem suffixText_of_clean
    (separated : EachBehind '_' (admitsSeparator false) text)
    (suffixed : CleanSuffix (Number.clean text))
    (once : (Number.clean text).count 'u' ≤ 1 ∧ (Number.clean text).count 'l' ≤ 1) :
    SuffixText (integerSuffixes ++ realSuffixes) text ∧
      ('u' ∉ Number.clean text ∧ 'l' ∉ Number.clean text → SuffixText realSuffixes text) := by
  generalize cleaned : Number.clean text = letters at suffixed once
  cases suffixed with
  | integer areLetters =>
      subst cleaned
      constructor
      · exact suffixText_of_subset (List.subset_append_left _ _)
          (suffixText_of_isIntegerSuffix separated areLetters once)
      · rintro ⟨noUnsigned, noLong⟩
        have nothing : Number.clean text = [] := by
          rw [List.eq_nil_iff_forall_not_mem]
          intro letter member
          rcases isIntegerSuffix_iff.mp (areLetters letter member) with rfl | rfl
          · exact noUnsigned member
          · exact noLong member
        rw [eq_nil_of_clean separated nothing]
        exact .absent
  | @real letter isReal =>
      simp only [Number.isRealSuffix, Bool.or_eq_true, beq_iff_eq] at isReal
      have closed : admitsSeparator false letter = false := by
        rcases isReal with (rfl | rfl) | rfl <;> decide
      obtain ⟨written, rfl, lower⟩ := exists_mark_of_clean separated closed cleaned
      have member : [written].map Char.toLower ∈ realSuffixes := by
        rw [List.map_singleton, lower]
        rcases isReal with (rfl | rfl) | rfl <;> decide
      exact ⟨.present (List.mem_append_right _ member), fun _ => .present member⟩

end Parts

end InitializerJson
