import InitializerJson.Character.Basic
import InitializerJson.Remainder

namespace InitializerJson.Lexical

/-!
# The extent of a numeral

How far a numeral reaches into the text that begins with it.  Numerals are
hexadecimal, binary or decimal, may part their digits by underscores, and may
end in a type suffix.  Each function gives the text after what it reads, and
nothing when the text does not begin so.
-/

open Character

/-- The text after `mark`, whose letters may stand in either case. -/
def afterAnyCase? : List Char → List Char → Option (List Char)
  | [], text => some text
  | _ :: _, [] => none
  | sign :: mark, character :: text =>
      if character.toLower = sign then
        afterAnyCase? mark text
      else
        none

/-- The text after a part that may be absent. -/
def optionally
    (part : List Char → Option (List Char))
    (text : List Char) :
    List Char :=
  (part text).getD text

/-- The text after one or more characters of a class. -/
def afterSome?
    (belongs : Char → Bool) :
    List Char → Option (List Char)
  | [] => none
  | first :: rest =>
      if belongs first then
        some (rest.dropWhile belongs)
      else
        none

/-- The text after decimal digits, of which the first is no separator. -/
def afterDigits? : List Char → Option (List Char)
  | [] => none
  | first :: rest =>
      if first.isDigit then
        some (rest.dropWhile fun character => character.isDigit || character == '_')
      else
        none

/-- The text after one sign. -/
def afterSign? : List Char → Option (List Char)
  | '+' :: rest => some rest
  | '-' :: rest => some rest
  | _ => none

/-- The text after a decimal point and the digits behind it. -/
def afterFraction? : List Char → Option (List Char)
  | '.' :: rest => afterDigits? rest
  | _ => none

/-- The text after an exponent. -/
def afterExponent?
    (text : List Char) :
    Option (List Char) :=
  (afterAnyCase? ['e'] text).bind fun rest =>
    afterDigits? (optionally afterSign? rest)

/-- The suffixes of integers, the longer ones first. -/
def integerSuffixes : List (List Char) :=
  [['u', 'l'], ['l', 'u'], ['u'], ['l']]

/-- The suffixes of real numbers. -/
def realSuffixes : List (List Char) :=
  [['f'], ['d'], ['m']]

/-- The text after the first of some suffixes that it begins with. -/
def afterSuffix?
    (suffixes : List (List Char))
    (text : List Char) :
    Option (List Char) :=
  suffixes.findSome? (afterAnyCase? · text)

/-- The text after a hexadecimal numeral. -/
def afterHexadecimal?
    (text : List Char) :
    Option (List Char) :=
  ((afterAnyCase? ['0', 'x'] text).bind
    (afterSome? fun character => isHexDigit character || character == '_')).map
    (optionally (afterSuffix? integerSuffixes))

/-- The text after a binary numeral. -/
def afterBinary?
    (text : List Char) :
    Option (List Char) :=
  ((afterAnyCase? ['0', 'b'] text).bind
    (afterSome? fun character => isBinaryDigit character || character == '_')).map
    (optionally (afterSuffix? integerSuffixes))

/-- The text after a decimal numeral that begins with a digit. -/
def afterDecimal?
    (text : List Char) :
    Option (List Char) :=
  (afterDigits? text).map fun rest =>
    optionally (afterSuffix? (integerSuffixes ++ realSuffixes))
      (optionally afterExponent? (optionally afterFraction? rest))

/-- The text after a decimal numeral that begins with its point. -/
def afterPointed?
    (text : List Char) :
    Option (List Char) :=
  (afterFraction? text).map fun rest =>
    optionally (afterSuffix? realSuffixes) (optionally afterExponent? rest)

/-- The text after a numeral. -/
def afterNumeral?
    (text : List Char) :
    Option (List Char) :=
  (afterHexadecimal? text).or
    ((afterBinary? text).or
      ((afterDecimal? text).or (afterPointed? text)))

/-- A mark in either case leaves a suffix. -/
theorem afterAnyCase?_suffix
    {mark text rest : List Char}
    (found : afterAnyCase? mark text = some rest) :
    rest <:+ text := by
  fun_induction afterAnyCase? mark text <;> grind [List.suffix_cons_iff]

/-- A mark that is not empty leaves a proper suffix. -/
theorem afterAnyCase?_properSuffix
    {sign : Char}
    {mark text rest : List Char}
    (found : afterAnyCase? (sign :: mark) text = some rest) :
    ProperSuffix rest text := by
  cases text with
  | nil => cases found
  | cons character text =>
      rw [afterAnyCase?] at found
      split at found
      · exact ProperSuffix.cons_of_suffix (afterAnyCase?_suffix found)
      · cases found

/-- A part that may be absent leaves a suffix when the part does. -/
theorem optionally_suffix
    {part : List Char → Option (List Char)}
    (partSuffix : ∀ {text rest}, part text = some rest → rest <:+ text)
    (text : List Char) :
    optionally part text <:+ text := by
  unfold optionally
  cases found : part text with
  | none => exact List.suffix_refl text
  | some rest => exact partSuffix found

/-- One or more characters of a class leave a proper suffix. -/
theorem afterSome?_properSuffix
    {belongs : Char → Bool}
    {text rest : List Char}
    (found : afterSome? belongs text = some rest) :
    ProperSuffix rest text := by
  cases text with
  | nil => cases found
  | cons first text =>
      rw [afterSome?] at found
      split at found
      · cases found
        exact ProperSuffix.cons_of_suffix (List.dropWhile_suffix belongs)
      · cases found

/-- Digits take one character at least. -/
theorem afterDigits?_properSuffix
    {text rest : List Char}
    (found : afterDigits? text = some rest) :
    ProperSuffix rest text := by
  cases text with
  | nil => cases found
  | cons first text =>
      rw [afterDigits?] at found
      split at found
      · cases found
        exact ProperSuffix.cons_of_suffix (List.dropWhile_suffix _)
      · cases found

/-- A sign leaves a suffix. -/
theorem afterSign?_suffix
    {text rest : List Char}
    (found : afterSign? text = some rest) :
    rest <:+ text := by
  unfold afterSign? at found
  split at found
  · cases found
    exact List.suffix_cons _ _
  · cases found
    exact List.suffix_cons _ _
  · cases found

/-- A fraction takes its point and a digit at least. -/
theorem afterFraction?_properSuffix
    {text rest : List Char}
    (found : afterFraction? text = some rest) :
    ProperSuffix rest text := by
  unfold afterFraction? at found
  split at found
  · exact (afterDigits?_properSuffix found).cons
  · cases found

/-- An exponent takes its mark and a digit at least. -/
theorem afterExponent?_properSuffix
    {text rest : List Char}
    (found : afterExponent? text = some rest) :
    ProperSuffix rest text := by
  obtain ⟨middle, marked, digits⟩ := Option.bind_eq_some_iff.mp found
  exact (afterDigits?_properSuffix digits).trans_suffix
    ((optionally_suffix afterSign?_suffix middle).trans
      (afterAnyCase?_suffix marked))

/-- A type suffix leaves a suffix. -/
theorem afterSuffix?_suffix
    {suffixes : List (List Char)}
    {text rest : List Char}
    (found : afterSuffix? suffixes text = some rest) :
    rest <:+ text := by
  obtain ⟨mark, _, matched⟩ := List.exists_of_findSome?_eq_some found
  exact afterAnyCase?_suffix matched

/-- A hexadecimal numeral leaves a proper suffix. -/
theorem afterHexadecimal?_properSuffix
    {text rest : List Char}
    (found : afterHexadecimal? text = some rest) :
    ProperSuffix rest text := by
  obtain ⟨middle, read, rfl⟩ := Option.map_eq_some_iff.mp found
  obtain ⟨digits, marked, run⟩ := Option.bind_eq_some_iff.mp read
  exact ProperSuffix.of_suffix (optionally_suffix afterSuffix?_suffix middle)
    ((afterSome?_properSuffix run).trans (afterAnyCase?_properSuffix marked))

/-- A binary numeral leaves a proper suffix. -/
theorem afterBinary?_properSuffix
    {text rest : List Char}
    (found : afterBinary? text = some rest) :
    ProperSuffix rest text := by
  obtain ⟨middle, read, rfl⟩ := Option.map_eq_some_iff.mp found
  obtain ⟨digits, marked, run⟩ := Option.bind_eq_some_iff.mp read
  exact ProperSuffix.of_suffix (optionally_suffix afterSuffix?_suffix middle)
    ((afterSome?_properSuffix run).trans (afterAnyCase?_properSuffix marked))

/-- A decimal numeral leaves a proper suffix. -/
theorem afterDecimal?_properSuffix
    {text rest : List Char}
    (found : afterDecimal? text = some rest) :
    ProperSuffix rest text := by
  obtain ⟨middle, digits, rfl⟩ := Option.map_eq_some_iff.mp found
  exact ProperSuffix.of_suffix
    ((optionally_suffix afterSuffix?_suffix _).trans
      ((optionally_suffix (fun read => (afterExponent?_properSuffix read).suffix) _).trans
        (optionally_suffix (fun read => (afterFraction?_properSuffix read).suffix) middle)))
    (afterDigits?_properSuffix digits)

/-- A numeral that begins with its point leaves a proper suffix. -/
theorem afterPointed?_properSuffix
    {text rest : List Char}
    (found : afterPointed? text = some rest) :
    ProperSuffix rest text := by
  obtain ⟨middle, fraction, rfl⟩ := Option.map_eq_some_iff.mp found
  exact ProperSuffix.of_suffix
    ((optionally_suffix afterSuffix?_suffix _).trans
      (optionally_suffix (fun read => (afterExponent?_properSuffix read).suffix) middle))
    (afterFraction?_properSuffix fraction)

/-- Every numeral leaves a proper suffix. -/
theorem afterNumeral?_properSuffix
    {text rest : List Char}
    (found : afterNumeral? text = some rest) :
    ProperSuffix rest text := by
  rcases Option.or_eq_some_iff.mp found with found | ⟨_, found⟩
  · exact afterHexadecimal?_properSuffix found
  · rcases Option.or_eq_some_iff.mp found with found | ⟨_, found⟩
    · exact afterBinary?_properSuffix found
    · rcases Option.or_eq_some_iff.mp found with found | ⟨_, found⟩
      · exact afterDecimal?_properSuffix found
      · exact afterPointed?_properSuffix found

end InitializerJson.Lexical
