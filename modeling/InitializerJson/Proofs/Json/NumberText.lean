import InitializerJson.Lexical.Numeral
import InitializerJson.Proofs.Number.DecimalDigits

namespace InitializerJson.JsonText

open Lexical

/-!
# JSON numbers

The grammar of JSON numbers, with the number that each text stands for: an
integer when it has neither fraction nor exponent, and otherwise a real number
that keeps its own text.  `readNumber?` reads a number from the front of a text,
and takes all of it where no character that could continue it follows.
-/

/-- A fraction: nothing, or a point and digits. -/
inductive FractionText : List Char → Prop where
  | absent :
      FractionText []
  | present
      {digits : List Char} :
      digits ≠ [] →
      (∀ digit ∈ digits, digit.isDigit = true) →
      FractionText ('.' :: digits)

/-- An exponent: nothing, or a mark, a sign that may be absent, and digits. -/
inductive ExponentText : List Char → Prop where
  | absent :
      ExponentText []
  | present
      {mark : Char}
      {sign digits : List Char} :
      mark = 'e' ∨ mark = 'E' →
      sign = [] ∨ sign = ['+'] ∨ sign = ['-'] →
      digits ≠ [] →
      (∀ digit ∈ digits, digit.isDigit = true) →
      ExponentText (mark :: (sign ++ digits))

/-- A JSON number as written, and the number it stands for. -/
inductive NumberText : List Char → Number → Prop where
  | integer
      {negative : Bool}
      {whole : List Char} :
      WholeText whole →
      NumberText (signText negative ++ whole)
        (.integer (Decimal.signedValue negative whole))
  | real
      {negative : Bool}
      {whole fraction exponent : List Char} :
      WholeText whole →
      FractionText fraction →
      ExponentText exponent →
      fraction ++ exponent ≠ [] →
      NumberText (signText negative ++ (whole ++ (fraction ++ exponent)))
        (.real (String.ofList
          (signText negative ++ (whole ++ (fraction ++ exponent)))))

/-- Whether a minus sign comes first, and the text behind it. -/
def readMinus : List Char → Bool × List Char
  | '-' :: rest => (true, rest)
  | text => (false, text)

/-- The text after whole digits, of which a leading zero is the only one. -/
def afterWhole? : List Char → Option (List Char)
  | [] => none
  | first :: rest =>
      if first = '0' then
        some rest
      else if first.isDigit then
        some (rest.dropWhile Char.isDigit)
      else
        none

/-- The text after a fraction. -/
def afterFraction? : List Char → Option (List Char)
  | '.' :: rest => afterSome? Char.isDigit rest
  | _ => none

/-- The text after an exponent. -/
def afterExponent? : List Char → Option (List Char)
  | [] => none
  | mark :: rest =>
      if mark = 'e' ∨ mark = 'E' then
        afterSome? Char.isDigit (optionally afterSign? rest)
      else
        none

/-- The number that a text begins with, and the text after it. -/
def readNumber?
    (text : List Char) :
    Option (Number × List Char) :=
  let signed := readMinus text
  (afterWhole? signed.2).map fun behind =>
    let rest := optionally afterExponent? (optionally afterFraction? behind)
    if rest = behind then
      (.integer (Decimal.signedValue signed.1 (taken signed.2 behind)), rest)
    else
      (.real (String.ofList (taken text rest)), rest)

/-- A minus sign leaves a suffix. -/
theorem readMinus_suffix
    (text : List Char) :
    (readMinus text).2 <:+ text := by
  unfold readMinus
  split
  · exact List.suffix_cons _ _
  · exact List.suffix_refl _

/-- Whole digits leave a suffix. -/
theorem afterWhole?_suffix
    {text rest : List Char}
    (found : afterWhole? text = some rest) :
    rest <:+ text := by
  unfold afterWhole? at found
  split at found
  · cases found
  · split at found
    · cases found
      exact List.suffix_cons _ _
    · split at found
      · cases found
        exact (List.dropWhile_suffix _).trans (List.suffix_cons _ _)
      · cases found

/-- A fraction leaves a suffix. -/
theorem afterFraction?_suffix
    {text rest : List Char}
    (found : afterFraction? text = some rest) :
    rest <:+ text := by
  unfold afterFraction? at found
  split at found
  · exact (afterSome?_properSuffix found).cons.suffix
  · cases found

/-- An exponent leaves a suffix. -/
theorem afterExponent?_suffix
    {text rest : List Char}
    (found : afterExponent? text = some rest) :
    rest <:+ text := by
  unfold afterExponent? at found
  split at found
  · cases found
  · split at found
    · exact ((afterSome?_properSuffix found).suffix.trans
        (optionally_suffix afterSign?_suffix _)).trans (List.suffix_cons _ _)
    · cases found

/-- A number leaves a suffix. -/
theorem readNumber?_suffix
    {text : List Char}
    {read : Number × List Char}
    (found : readNumber? text = some read) :
    read.2 <:+ text := by
  obtain ⟨behind, whole, rfl⟩ := Option.map_eq_some_iff.mp found
  have wholeSuffix := (afterWhole?_suffix whole).trans (readMinus_suffix text)
  have partsSuffix :=
    (optionally_suffix afterExponent?_suffix _).trans
      (optionally_suffix afterFraction?_suffix behind)
  simp only
  split
  · exact partsSuffix.trans wholeSuffix
  · exact partsSuffix.trans wholeSuffix

/-- The characters that could continue a number. -/
def continuesNumber
    (character : Char) :
    Bool :=
  character.isDigit || character == '.' || character == 'e' || character == 'E'

/-- Digits end where a number does. -/
theorem endsRun_isDigit
    {rest : List Char}
    (ends : EndsRun continuesNumber rest) :
    EndsRun Char.isDigit rest :=
  endsRun_of_imp (fun character digit => by simp [continuesNumber, digit]) ends

/-- Digits are taken whole in front of what is no digit. -/
theorem afterSome?_digits
    {digits rest : List Char}
    (nonempty : digits ≠ [])
    (areDigits : ∀ digit ∈ digits, digit.isDigit = true)
    (ends : EndsRun Char.isDigit rest) :
    afterSome? Char.isDigit (digits ++ rest) = some rest := by
  cases digits with
  | nil => exact absurd rfl nonempty
  | cons first others =>
      obtain ⟨firstDigit, otherDigits⟩ := List.forall_mem_cons.mp areDigits
      simp only [List.cons_append, afterSome?, firstDigit, ↓reduceIte]
      rw [dropWhile_append_of_endsRun otherDigits ends]

/-- Whole digits are taken whole in front of what is no digit. -/
theorem afterWhole?_wholeText
    {whole rest : List Char}
    (digits : WholeText whole)
    (ends : EndsRun Char.isDigit rest) :
    afterWhole? (whole ++ rest) = some rest := by
  cases digits with
  | zero => rfl
  | positive first notZero others =>
      simp only [List.cons_append, afterWhole?, notZero, first, ↓reduceIte]
      rw [dropWhile_append_of_endsRun others ends]

/-- A sign before digits is told from the digits. -/
theorem readMinus_signText
    {negative : Bool}
    {whole rest : List Char}
    (digits : WholeText whole) :
    readMinus (signText negative ++ (whole ++ rest)) = (negative, whole ++ rest) := by
  cases negative with
  | true => rfl
  | false =>
      cases digits with
      | zero => rfl
      | positive first _ _ =>
          simp only [signText, Bool.false_eq_true, ↓reduceIte, List.nil_append,
            List.cons_append]
          unfold readMinus
          split
          · next shape =>
              cases shape
              exact absurd first (by decide)
          · rfl

/-- A fraction is taken whole in front of what continues no number but an exponent. -/
theorem optionally_afterFraction?
    {fraction rest : List Char}
    (written : FractionText fraction)
    (ends :
      EndsRun (fun character => character.isDigit || character == '.') rest) :
    optionally afterFraction? (fraction ++ rest) = rest := by
  cases written with
  | absent =>
      have none : afterFraction? rest = none := by
        unfold afterFraction?
        split
        · exact absurd (ends '.' rfl) (by decide)
        · rfl
      simp [optionally, none]
  | present nonempty digits =>
      have digitsEnd : EndsRun Char.isDigit rest :=
        endsRun_of_imp (fun character digit => by simp [digit]) ends
      simp [optionally, afterFraction?, afterSome?_digits nonempty digits digitsEnd]

/-- A sign before digits is passed over. -/
theorem optionally_afterSign?
    {sign digits rest : List Char}
    (signed : sign = [] ∨ sign = ['+'] ∨ sign = ['-'])
    (nonempty : digits ≠ [])
    (areDigits : ∀ digit ∈ digits, digit.isDigit = true) :
    optionally afterSign? (sign ++ (digits ++ rest)) = digits ++ rest := by
  obtain ⟨first, others, rfl⟩ := List.exists_cons_of_ne_nil nonempty
  have firstDigit := areDigits first (by simp)
  rcases signed with rfl | rfl | rfl
  · have none : afterSign? (first :: others ++ rest) = none := by
      unfold afterSign?
      split
      · next shape =>
          cases shape
          exact absurd firstDigit (by decide)
      · next shape =>
          cases shape
          exact absurd firstDigit (by decide)
      · rfl
    simp only [List.nil_append, optionally, none, Option.getD_none]
  · rfl
  · rfl

/-- An exponent is taken whole in front of what continues no number. -/
theorem optionally_afterExponent?
    {exponent rest : List Char}
    (written : ExponentText exponent)
    (ends : EndsRun continuesNumber rest) :
    optionally afterExponent? (exponent ++ rest) = rest := by
  cases written with
  | absent =>
      have none : afterExponent? rest = none := by
        cases rest with
        | nil => rfl
        | cons first others =>
            have outside := ends first rfl
            simp only [continuesNumber, Bool.or_eq_false_iff, beq_eq_false_iff_ne] at outside
            simp [afterExponent?, outside.1.2, outside.2]
      simp [optionally, none]
  | present marked signed nonempty digits =>
      have taken :=
        afterSome?_digits nonempty digits (endsRun_isDigit ends)
      simp only [List.cons_append, List.append_assoc, optionally, afterExponent?,
        if_pos marked]
      rw [← optionally, optionally_afterSign? signed nonempty digits, taken]
      rfl

/-- Behind the digits, only an exponent or the end of the number can follow a fraction. -/
theorem endsRun_fraction
    {exponent rest : List Char}
    (written : ExponentText exponent)
    (ends : EndsRun continuesNumber rest) :
    EndsRun (fun character => character.isDigit || character == '.')
      (exponent ++ rest) := by
  cases written with
  | absent =>
      exact endsRun_of_imp
        (fun character inside => by simp_all [continuesNumber]) ends
  | present marked _ _ _ =>
      intro character first
      cases first
      rcases marked with rfl | rfl <;> decide

/-- Behind the whole digits comes no digit. -/
theorem endsRun_whole
    {fraction exponent rest : List Char}
    (pointed : FractionText fraction)
    (scaled : ExponentText exponent)
    (ends : EndsRun continuesNumber rest) :
    EndsRun Char.isDigit (fraction ++ (exponent ++ rest)) := by
  cases pointed with
  | absent =>
      have behindPoint := endsRun_fraction scaled ends
      exact endsRun_of_imp (fun character digit => by simp [digit]) behindPoint
  | present _ _ =>
      intro character first
      cases first
      decide

/-- A JSON number is read whole in front of what cannot continue it. -/
theorem readNumber?_numberText
    {text rest : List Char}
    {number : Number}
    (written : NumberText text number)
    (ends : EndsRun continuesNumber rest) :
    readNumber? (text ++ rest) = some (number, rest) := by
  cases written with
  | @integer negative whole digits =>
      have wholeRead := afterWhole?_wholeText digits (endsRun_isDigit ends)
      have fractionRead :=
        optionally_afterFraction? .absent (endsRun_fraction .absent ends)
      have exponentRead := optionally_afterExponent? .absent ends
      simp only [List.nil_append] at fractionRead exponentRead
      simp only [readNumber?, List.append_assoc, readMinus_signText digits,
        wholeRead, Option.map_some, fractionRead, exponentRead, ↓reduceIte,
        taken_append_left]
  | @real negative whole fraction exponent digits pointed scaled nonempty =>
      have wholeRead :=
        afterWhole?_wholeText digits (endsRun_whole pointed scaled ends)
      have fractionRead :=
        optionally_afterFraction? pointed (endsRun_fraction scaled ends)
      have exponentRead := optionally_afterExponent? scaled ends
      have longer : rest ≠ fraction ++ (exponent ++ rest) := by
        intro same
        rw [← List.append_assoc, List.self_eq_append_left] at same
        exact nonempty same
      have shape :
          signText negative ++ (whole ++ (fraction ++ exponent)) ++ rest =
            signText negative ++ (whole ++ (fraction ++ (exponent ++ rest))) := by
        simp only [List.append_assoc]
      have front :
          taken (signText negative ++ (whole ++ (fraction ++ (exponent ++ rest)))) rest =
            signText negative ++ (whole ++ (fraction ++ exponent)) := by
        rw [← shape, taken_append_left]
      rw [shape]
      simp only [readNumber?, readMinus_signText digits, wholeRead, Option.map_some,
        fractionRead, exponentRead, if_neg longer, front]

/-- A JSON number begins with a digit or a minus sign. -/
theorem NumberText.exists_first
    {text : List Char}
    {number : Number}
    (written : NumberText text number) :
    ∃ first others,
      text = first :: others ∧ (first = '-' ∨ first.isDigit = true) := by
  have signed :
      ∀ {negative : Bool} {whole rest : List Char},
        WholeText whole →
        ∃ first others,
          signText negative ++ (whole ++ rest) = first :: others ∧
            (first = '-' ∨ first.isDigit = true) := by
    intro negative whole rest digits
    cases negative with
    | true => exact ⟨'-', whole ++ rest, rfl, .inl rfl⟩
    | false =>
        cases digits with
        | zero => exact ⟨'0', rest, rfl, .inr rfl⟩
        | @positive first others digit _ _ =>
            exact ⟨first, others ++ rest, rfl, .inr digit⟩
  cases written with
  | integer digits =>
      rw [← List.append_nil (_ ++ _), List.append_assoc]
      exact signed digits
  | real digits _ _ _ => exact signed digits

/-- An integer's text is a JSON number that stands for it. -/
theorem numberText_integer
    (value : Int) :
    NumberText (Number.integer value).text.toList (.integer value) := by
  have written :
      NumberText (signText (decide (value < 0)) ++ Nat.toDigits 10 value.natAbs)
        (.integer (Decimal.signedValue (decide (value < 0))
          (Nat.toDigits 10 value.natAbs))) :=
    NumberText.integer (wholeText_decimalDigits value.natAbs)
  rw [signedValue_decimalDigits] at written
  rw [toList_text_integer]
  exact written

end InitializerJson.JsonText
