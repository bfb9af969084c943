import InitializerJson.Lexical.Numeral
import InitializerJson.Proofs.Character.Classes

namespace InitializerJson.Lexical

open Character

/-!
# The texts of numerals

What a numeral may look like: the mark of a base with its digits, or decimal digits
with a fraction and an exponent if they have them, and a type suffix behind either.
Underscores part the digits.  What is read as a numeral is such a text.
-/

/-- The bases that a numeral names by a mark. -/
inductive NumeralBase where
  | hexadecimal
  | binary
  deriving Repr, DecidableEq

namespace NumeralBase

/-- The letter behind the leading zero. -/
def mark : NumeralBase → Char
  | hexadecimal => 'x'
  | binary => 'b'

/-- The number of different digits. -/
def radix : NumeralBase → Nat
  | hexadecimal => 16
  | binary => 2

/-- The digits of the base. -/
def isDigit : NumeralBase → Char → Bool
  | hexadecimal => isHexDigit
  | binary => isBinaryDigit

/-- The characters that may stand behind the mark of the base. -/
def continues
    (base : NumeralBase)
    (character : Char) :
    Bool :=
  base.isDigit character || character == '_'

/-- The text after a numeral of the base. -/
def afterNumeral?
    (base : NumeralBase)
    (text : List Char) :
    Option (List Char) :=
  ((afterAnyCase? ['0', base.mark] text).bind (afterSome? base.continues)).map
    (optionally (afterSuffix? integerSuffixes))

end NumeralBase

/-- Hexadecimal numerals are those of their base. -/
theorem afterHexadecimal?_eq :
    afterHexadecimal? = NumeralBase.hexadecimal.afterNumeral? := by
  rfl

/-- Binary numerals are those of their base. -/
theorem afterBinary?_eq :
    afterBinary? = NumeralBase.binary.afterNumeral? := by
  rfl

/-- The characters that go on behind digits as part of them. -/
def continuesDigits
    (character : Char) :
    Bool :=
  character.isDigit || character == '_'

/-- Decimal digits, of which the first is no separator. -/
inductive DigitsText : List Char → Prop where
  | intro
      {first : Char}
      {others : List Char} :
      first.isDigit = true →
      (∀ character ∈ others, continuesDigits character = true) →
      DigitsText (first :: others)

/-- A decimal point with digits behind it, or nothing. -/
inductive PointedText : List Char → Prop where
  | absent :
      PointedText []
  | present
      {digits : List Char} :
      DigitsText digits →
      PointedText ('.' :: digits)

/-- The mark of an exponent with its digits, which may have a sign, or nothing. -/
inductive ScaledText : List Char → Prop where
  | absent :
      ScaledText []
  | present
      {mark : Char}
      {sign digits : List Char} :
      mark.toLower = 'e' →
      sign = [] ∨ sign = ['+'] ∨ sign = ['-'] →
      DigitsText digits →
      ScaledText (mark :: (sign ++ digits))

/-- One of some type suffixes, in either case, or nothing. -/
inductive SuffixText
    (suffixes : List (List Char)) :
    List Char → Prop where
  | absent :
      SuffixText suffixes []
  | present
      {text : List Char} :
      text.map Char.toLower ∈ suffixes →
      SuffixText suffixes text

/-- The texts of numerals. -/
inductive NumeralText : List Char → Prop where
  | based
      {base : NumeralBase}
      {mark : Char}
      {digits suffix : List Char} :
      mark.toLower = base.mark →
      digits ≠ [] →
      (∀ character ∈ digits, base.continues character = true) →
      SuffixText integerSuffixes suffix →
      NumeralText ('0' :: mark :: (digits ++ suffix))
  | decimal
      {whole fraction exponent suffix : List Char} :
      DigitsText whole →
      PointedText fraction →
      ScaledText exponent →
      SuffixText (integerSuffixes ++ realSuffixes) suffix →
      NumeralText (whole ++ (fraction ++ (exponent ++ suffix)))
  /-- The digits in front of the point may be missing. -/
  | pointed
      {digits exponent suffix : List Char} :
      DigitsText digits →
      ScaledText exponent →
      SuffixText realSuffixes suffix →
      NumeralText ('.' :: (digits ++ (exponent ++ suffix)))

/-! ## What the parts take -/

/-- A mark that is passed in either case is the mark in small letters. -/
theorem exists_of_afterAnyCase?
    {mark text rest : List Char}
    (found : afterAnyCase? mark text = some rest) :
    ∃ front, text = front ++ rest ∧ front.map Char.toLower = mark := by
  fun_induction afterAnyCase? mark text with
  | case1 text =>
      cases found
      exact ⟨[], rfl, rfl⟩
  | case2 => cases found
  | case3 mark character text hypothesis =>
      obtain ⟨front, rfl, lower⟩ := hypothesis found
      exact ⟨character :: front, rfl, congrArg (character.toLower :: ·) lower⟩
  | case4 => cases found

/-- A part that may be absent is there, or leaves everything. -/
theorem optionally_cases
    {part : List Char → Option (List Char)}
    {text rest : List Char}
    (left : optionally part text = rest) :
    part text = some rest ∨ text = rest := by
  unfold optionally at left
  cases found : part text with
  | none =>
      rw [found] at left
      exact .inr left
  | some behind =>
      rw [found] at left
      exact .inl (congrArg some left)

/-- Digits are taken as digits. -/
theorem exists_digitsText
    {text rest : List Char}
    (found : afterDigits? text = some rest) :
    ∃ digits, text = digits ++ rest ∧ DigitsText digits := by
  cases text with
  | nil => cases found
  | cons first text =>
      rw [afterDigits?] at found
      split at found
      · next digit =>
          cases found
          refine ⟨first :: text.takeWhile continuesDigits, ?_, .intro digit ?_⟩
          · exact congrArg (first :: ·) List.takeWhile_append_dropWhile.symm
          · exact List.all_eq_true.mp List.all_takeWhile
      · cases found

/-- One or more characters of a class are taken as such. -/
theorem exists_of_afterSome?
    {belongs : Char → Bool}
    {text rest : List Char}
    (found : afterSome? belongs text = some rest) :
    ∃ run,
      text = run ++ rest ∧ run ≠ [] ∧ ∀ character ∈ run, belongs character = true := by
  cases text with
  | nil => cases found
  | cons first text =>
      rw [afterSome?] at found
      split at found
      · next inside =>
          cases found
          refine ⟨first :: text.takeWhile belongs, ?_, by simp, ?_⟩
          · exact congrArg (first :: ·) List.takeWhile_append_dropWhile.symm
          · exact List.forall_mem_cons.mpr ⟨inside, List.all_eq_true.mp List.all_takeWhile⟩
      · cases found

/-- What may be a fraction is taken as one. -/
theorem exists_pointedText
    {text rest : List Char}
    (left : optionally afterFraction? text = rest) :
    ∃ fraction, text = fraction ++ rest ∧ PointedText fraction := by
  rcases optionally_cases left with found | rfl
  · unfold afterFraction? at found
    split at found
    · obtain ⟨digits, rfl, isDigits⟩ := exists_digitsText found
      exact ⟨'.' :: digits, rfl, .present isDigits⟩
    · cases found
  · exact ⟨[], rfl, .absent⟩

/-- What may be a sign is taken as one. -/
theorem exists_sign_of_afterSign?
    {text rest : List Char}
    (left : optionally afterSign? text = rest) :
    ∃ sign, text = sign ++ rest ∧ (sign = [] ∨ sign = ['+'] ∨ sign = ['-']) := by
  rcases optionally_cases left with found | rfl
  · unfold afterSign? at found
    split at found
    · cases found
      exact ⟨['+'], rfl, .inr (.inl rfl)⟩
    · cases found
      exact ⟨['-'], rfl, .inr (.inr rfl)⟩
    · cases found
  · exact ⟨[], rfl, .inl rfl⟩

/-- What may be an exponent is taken as one. -/
theorem exists_scaledText
    {text rest : List Char}
    (left : optionally afterExponent? text = rest) :
    ∃ exponent, text = exponent ++ rest ∧ ScaledText exponent := by
  rcases optionally_cases left with found | rfl
  · obtain ⟨behind, marked, read⟩ := Option.bind_eq_some_iff.mp found
    obtain ⟨front, rfl, lower⟩ := exists_of_afterAnyCase? marked
    obtain ⟨mark, others, rfl, isMark, nothing⟩ := List.map_eq_cons_iff.mp lower
    obtain rfl := List.map_eq_nil_iff.mp nothing
    generalize signLeft : optionally afterSign? behind = unsigned at read
    obtain ⟨sign, rfl, signed⟩ := exists_sign_of_afterSign? signLeft
    obtain ⟨digits, rfl, isDigits⟩ := exists_digitsText read
    exact ⟨mark :: (sign ++ digits), by simp, .present isMark signed isDigits⟩
  · exact ⟨[], rfl, .absent⟩

/-- What may be a type suffix is taken as one. -/
theorem exists_suffixText
    {suffixes : List (List Char)}
    {text rest : List Char}
    (left : optionally (afterSuffix? suffixes) text = rest) :
    ∃ suffix, text = suffix ++ rest ∧ SuffixText suffixes suffix := by
  rcases optionally_cases left with found | rfl
  · obtain ⟨mark, member, matched⟩ := List.exists_of_findSome?_eq_some found
    obtain ⟨front, rfl, rfl⟩ := exists_of_afterAnyCase? matched
    exact ⟨front, rfl, .present member⟩
  · exact ⟨[], rfl, .absent⟩

/-! ## What numerals take -/

/-- No character but the zero itself is a zero in small letters. -/
theorem eq_zero_of_toLower
    {character : Char}
    (zero : character.toLower = '0') :
    character = '0' := by
  rcases toLower_cases character with same | ⟨_, letter⟩
  · exact same.symm.trans zero
  · rw [zero] at letter
    cases letter

/-- What is read as a numeral of a base is one. -/
theorem NumeralBase.exists_numeralText
    {base : NumeralBase}
    {text rest : List Char}
    (found : base.afterNumeral? text = some rest) :
    ∃ numeral, text = numeral ++ rest ∧ NumeralText numeral := by
  obtain ⟨behind, read, left⟩ := Option.map_eq_some_iff.mp found
  obtain ⟨middle, marked, run⟩ := Option.bind_eq_some_iff.mp read
  obtain ⟨front, rfl, lower⟩ := exists_of_afterAnyCase? marked
  obtain ⟨zero, others, rfl, isZero, markLower⟩ := List.map_eq_cons_iff.mp lower
  obtain ⟨mark, nothing, rfl, isMark, empty⟩ := List.map_eq_cons_iff.mp markLower
  obtain rfl := List.map_eq_nil_iff.mp empty
  obtain rfl := eq_zero_of_toLower isZero
  obtain ⟨digits, rfl, filled, inBase⟩ := exists_of_afterSome? run
  obtain ⟨suffix, rfl, isSuffix⟩ := exists_suffixText left
  exact ⟨'0' :: mark :: (digits ++ suffix), by simp, .based isMark filled inBase isSuffix⟩

/-- What is read as a numeral is one. -/
theorem exists_numeralText
    {text rest : List Char}
    (found : afterNumeral? text = some rest) :
    ∃ numeral, text = numeral ++ rest ∧ NumeralText numeral := by
  rcases Option.or_eq_some_iff.mp found with found | ⟨_, found⟩
  · rw [afterHexadecimal?_eq] at found
    exact NumeralBase.exists_numeralText found
  rcases Option.or_eq_some_iff.mp found with found | ⟨_, found⟩
  · rw [afterBinary?_eq] at found
    exact NumeralBase.exists_numeralText found
  rcases Option.or_eq_some_iff.mp found with found | ⟨_, found⟩
  · obtain ⟨behindWhole, digits, left⟩ := Option.map_eq_some_iff.mp found
    generalize fractionLeft : optionally afterFraction? behindWhole = behindFraction at left
    generalize exponentLeft : optionally afterExponent? behindFraction = behindExponent at left
    obtain ⟨whole, rfl, isWhole⟩ := exists_digitsText digits
    obtain ⟨fraction, rfl, pointed⟩ := exists_pointedText fractionLeft
    obtain ⟨exponent, rfl, scaled⟩ := exists_scaledText exponentLeft
    obtain ⟨suffix, rfl, isSuffix⟩ := exists_suffixText left
    exact ⟨whole ++ (fraction ++ (exponent ++ suffix)), by simp,
      .decimal isWhole pointed scaled isSuffix⟩
  · obtain ⟨behindFraction, fraction, left⟩ := Option.map_eq_some_iff.mp found
    generalize exponentLeft : optionally afterExponent? behindFraction = behindExponent at left
    unfold afterFraction? at fraction
    split at fraction
    · obtain ⟨digits, rfl, isDigits⟩ := exists_digitsText fraction
      obtain ⟨exponent, rfl, scaled⟩ := exists_scaledText exponentLeft
      obtain ⟨suffix, rfl, isSuffix⟩ := exists_suffixText left
      exact ⟨'.' :: (digits ++ (exponent ++ suffix)), by simp,
        .pointed isDigits scaled isSuffix⟩
    · cases fraction

end InitializerJson.Lexical
