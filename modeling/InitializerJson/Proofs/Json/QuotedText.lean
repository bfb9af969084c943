import InitializerJson.Json.Layout
import InitializerJson.Remainder

namespace InitializerJson.JsonText

open Character

/-!
# JSON strings

The grammar of the characters inside a JSON string, with the character that
each of them stands for, and a reader of them.  Short escapes, code units and
surrogate pairs are all understood; a surrogate that stands alone is no
character.  The writer's own escapes are among what the grammar allows.
-/

/-- The marks that stand for a character behind a backslash. -/
def shortEscapes : List (Char × Char) :=
  [
    ('"', '"'), ('\\', '\\'), ('/', '/'), ('b', '\x08'), ('f', '\x0c'),
    ('n', '\n'), ('r', '\r'), ('t', '\t')
  ]

/-- Whether a code unit is the first one of a surrogate pair. -/
def isHighSurrogate
    (unit : Nat) :
    Bool :=
  0xd800 ≤ unit && unit < 0xdc00

/-- Whether a code unit is the second one of a surrogate pair. -/
def isLowSurrogate
    (unit : Nat) :
    Bool :=
  0xdc00 ≤ unit && unit < 0xe000

/-- The code of the character that a surrogate pair stands for. -/
def pairCode
    (high low : Nat) :
    Nat :=
  0x10000 + (high - 0xd800) * 0x400 + (low - 0xdc00)

/-- Four hexadecimal digits and the code unit that they write. -/
structure UnitText
    (digits : List Char)
    (unit : Nat) :
    Prop where
  length : digits.length = 4
  isHexDigit : ∀ digit ∈ digits, isHexDigit digit = true
  value : positionalValue 16 digits = unit

/-- One character of a string as written, and the character it stands for. -/
inductive CharacterText : List Char → Char → Prop where
  | plain
      {character : Char} :
      0x20 ≤ character.toNat →
      character ≠ '"' →
      character ≠ '\\' →
      CharacterText [character] character
  | short
      {mark character : Char} :
      shortEscapes.lookup mark = some character →
      CharacterText ['\\', mark] character
  | code
      {digits : List Char}
      {character : Char} :
      UnitText digits character.toNat →
      CharacterText ('\\' :: 'u' :: digits) character
  | pair
      {highDigits lowDigits : List Char}
      {high low : Nat}
      {character : Char} :
      UnitText highDigits high →
      UnitText lowDigits low →
      isHighSurrogate high = true →
      isLowSurrogate low = true →
      pairCode high low = character.toNat →
      CharacterText ('\\' :: 'u' :: highDigits ++ '\\' :: 'u' :: lowDigits)
        character

/-- The characters between the quotes as written, and the text they stand for. -/
inductive BodyText : List Char → List Char → Prop where
  | nil :
      BodyText [] []
  | cons
      {written body value : List Char}
      {character : Char} :
      CharacterText written character →
      BodyText body value →
      BodyText (written ++ body) (character :: value)

/-- The code unit that four hexadecimal digits write, and the text after them. -/
def readUnit?
    (text : List Char) :
    Option (Nat × List Char) :=
  let digits := text.take 4
  if digits.length = 4 ∧ digits.all isHexDigit = true then
    some (positionalValue 16 digits, text.drop 4)
  else
    none

/-- The character of a code, if there is one. -/
def scalar?
    (code : Nat) :
    Option Char :=
  if valid : code.isValidChar then
    some (Char.ofNatAux code valid)
  else
    none

/-- The character whose code units are written behind `\u`, and the text after them. -/
def readCode?
    (text : List Char) :
    Option (Char × List Char) :=
  match readUnit? text with
  | none => none
  | some (high, behind) =>
      if isHighSurrogate high then
        match (afterMark? ['\\', 'u'] behind).bind readUnit? with
        | none => none
        | some (low, rest) =>
            if isLowSurrogate low then
              (scalar? (pairCode high low)).map fun character => (character, rest)
            else
              none
      else
        (scalar? high).map fun character => (character, behind)

/-- The first character of a string, and the text after it. -/
def readCharacter? : List Char → Option (Char × List Char)
  | [] => none
  | '\\' :: 'u' :: rest => readCode? rest
  | '\\' :: mark :: rest =>
      (shortEscapes.lookup mark).map fun character => (character, rest)
  | first :: rest =>
      if first = '"' ∨ first = '\\' ∨ first.toNat < 0x20 then
        none
      else
        some (first, rest)

/-- A code unit leaves a suffix. -/
theorem readUnit?_suffix
    {text : List Char}
    {read : Nat × List Char}
    (found : readUnit? text = some read) :
    read.2 <:+ text := by
  unfold readUnit? at found
  simp only at found
  split at found
  · cases found
    exact List.drop_suffix 4 text
  · cases found

/-- The code units of a character leave a suffix. -/
theorem readCode?_suffix
    {text : List Char}
    {read : Char × List Char}
    (found : readCode? text = some read) :
    read.2 <:+ text := by
  unfold readCode? at found
  split at found
  · cases found
  · next high behind first =>
      have firstSuffix := readUnit?_suffix first
      split at found
      · split at found
        · cases found
        · next low rest second =>
            obtain ⟨marked, mark, unit⟩ := Option.bind_eq_some_iff.mp second
            have markSuffix : marked <:+ behind :=
              ⟨['\\', 'u'], (afterMark?_eq_some_iff.mp mark).symm⟩
            split at found
            · obtain ⟨character, _, rfl⟩ := Option.map_eq_some_iff.mp found
              exact ((readUnit?_suffix unit).trans markSuffix).trans firstSuffix
            · cases found
      · obtain ⟨character, _, rfl⟩ := Option.map_eq_some_iff.mp found
        exact firstSuffix

/-- A character of a string leaves a proper suffix. -/
theorem readCharacter?_properSuffix
    {text : List Char}
    {read : Char × List Char}
    (found : readCharacter? text = some read) :
    ProperSuffix read.2 text := by
  unfold readCharacter? at found
  split at found
  · cases found
  · exact (ProperSuffix.cons_of_suffix (readCode?_suffix found)).cons
  · obtain ⟨character, _, rfl⟩ := Option.map_eq_some_iff.mp found
    exact ProperSuffix.tail.cons
  · split at found
    · cases found
    · cases found
      exact ProperSuffix.tail

/-- The text of a string and the text after its closing quote, read behind the opening one. -/
def readBody?
    (text : List Char) :
    Option (List Char × List Char) :=
  if text.head? = some '"' then
    some ([], text.tail)
  else
    match _reading : readCharacter? text with
    | none => none
    | some (character, rest) =>
        (readBody? rest).map fun read => (character :: read.1, read.2)
termination_by text.length
decreasing_by exact (readCharacter?_properSuffix _reading).shorter

/-- The text of a string with its quotes, and the text after it. -/
def readQuoted? : List Char → Option (List Char × List Char)
  | '"' :: rest => readBody? rest
  | _ => none

/-- The body of a string leaves a suffix. -/
theorem readBody?_suffix
    {text : List Char}
    {read : List Char × List Char}
    (found : readBody? text = some read) :
    read.2 <:+ text := by
  fun_induction readBody? text generalizing read with
  | case1 text =>
      cases found
      exact List.tail_suffix text
  | case2 => cases found
  | case3 text _ character rest reading hypothesis =>
      obtain ⟨inner, innerFound, rfl⟩ := Option.map_eq_some_iff.mp found
      exact (hypothesis innerFound).trans (readCharacter?_properSuffix reading).suffix

/-- A string with its quotes leaves a suffix. -/
theorem readQuoted?_suffix
    {text : List Char}
    {read : List Char × List Char}
    (found : readQuoted? text = some read) :
    read.2 <:+ text := by
  unfold readQuoted? at found
  split at found
  · exact (readBody?_suffix found).trans (List.suffix_cons _ _)
  · cases found

/-- Four hexadecimal digits are read as their code unit. -/
theorem readUnit?_unitText
    {digits rest : List Char}
    {unit : Nat}
    (written : UnitText digits unit) :
    readUnit? (digits ++ rest) = some (unit, rest) := by
  have front : (digits ++ rest).take 4 = digits :=
    List.take_left' written.length
  have behind : (digits ++ rest).drop 4 = rest :=
    List.drop_left' written.length
  have hexadecimal : digits.all isHexDigit = true :=
    List.all_eq_true.mpr written.isHexDigit
  simp only [readUnit?, front, behind, written.length, hexadecimal, written.value,
    and_self, ↓reduceIte]

/-- A character is found under its own code. -/
theorem scalar?_toNat
    (character : Char) :
    scalar? character.toNat = some character := by
  have valid : character.toNat.isValidChar := character.valid
  rw [scalar?, dif_pos valid]
  exact congrArg some (Char.ext rfl)

/-- No character has the code of a surrogate. -/
theorem not_isHighSurrogate_toNat
    (character : Char) :
    isHighSurrogate character.toNat = false := by
  have valid : character.toNat.isValidChar := character.valid
  simp only [Nat.isValidChar] at valid
  simp only [isHighSurrogate, Bool.and_eq_false_iff, decide_eq_false_iff_not]
  omega

/-- A written character is read as what it stands for. -/
theorem readCharacter?_characterText
    {written rest : List Char}
    {character : Char}
    (text : CharacterText written character) :
    readCharacter? (written ++ rest) = some (character, rest) := by
  cases text with
  | plain printable notQuote notBackslash =>
      have printed : ¬ character.toNat < 0x20 := Nat.not_lt.mpr printable
      simp [readCharacter?, notQuote, notBackslash, printed]
  | @short mark _ known =>
      have notUnit : mark ≠ 'u' := by
        rintro rfl
        cases known
      simp [readCharacter?, known]
  | code unit =>
      simp only [List.cons_append, readCharacter?, readCode?, readUnit?_unitText unit,
        not_isHighSurrogate_toNat, Bool.false_eq_true, ↓reduceIte, scalar?_toNat,
        Option.map_some]
  | @pair highDigits lowDigits high low _ first second isHigh isLow code =>
      have behind :
          afterMark? ['\\', 'u'] ('\\' :: 'u' :: lowDigits ++ rest) =
            some (lowDigits ++ rest) :=
        afterMark?_eq_some_iff.mpr rfl
      simp only [List.cons_append, List.append_assoc] at behind ⊢
      simp only [readCharacter?, readCode?, readUnit?_unitText first, isHigh, ↓reduceIte,
        behind, Option.bind_some, readUnit?_unitText second, isLow, code, scalar?_toNat,
        Option.map_some]

/-- No character of a string is written by a quote first. -/
theorem head?_ne_quote_of_readCharacter?
    {text : List Char}
    {read : Char × List Char}
    (found : readCharacter? text = some read) :
    text.head? ≠ some '"' := by
  intro quoted
  obtain ⟨others, rfl⟩ := List.head?_eq_some_iff.mp quoted
  simp [readCharacter?] at found

/-- The body of a string is read as the text it stands for. -/
theorem readBody?_bodyText
    {body value : List Char}
    (text : BodyText body value)
    (rest : List Char) :
    readBody? (body ++ '"' :: rest) = some (value, rest) := by
  induction text with
  | nil => simp [readBody?]
  | cons first _ hypothesis =>
      rename_i written body value character _
      have reading :
          readCharacter? (written ++ (body ++ '"' :: rest)) =
            some (character, body ++ '"' :: rest) :=
        readCharacter?_characterText first
      rw [List.append_assoc, readBody?, if_neg (head?_ne_quote_of_readCharacter? reading)]
      split
      · next absent =>
          rw [reading] at absent
          cases absent
      · next known behind found =>
          rw [reading] at found
          cases found
          rw [hypothesis]
          rfl

/-- The sixteen digits are hexadecimal digits with their own values. -/
theorem hexDigit_spec :
    ∀ value < 16,
      isHexDigit (hexDigit value) = true ∧ digitValue (hexDigit value) = value := by
  decide

/-- A control character's code in four digits. -/
theorem unitText_control
    {code : Nat}
    (control : code < 0x20) :
    UnitText ['0', '0', hexDigit (code / 16), hexDigit (code % 16)] code where
  length := rfl
  isHexDigit := by
    have high := (hexDigit_spec (code / 16) (by omega)).1
    have low := (hexDigit_spec (code % 16) (by omega)).1
    simp only [List.forall_mem_cons]
    exact ⟨by decide, by decide, high, low, by simp⟩
  value := by
    have zero : digitValue '0' = 0 := by decide
    simp only [positionalValue, List.foldl_cons, List.foldl_nil, zero,
      (hexDigit_spec (code / 16) (by omega)).2, (hexDigit_spec (code % 16) (by omega)).2]
    omega

/-- The writer's escape of a character stands for that character. -/
theorem characterText_escapeCharacter
    (character : Char) :
    CharacterText (escapeCharacter character) character := by
  unfold escapeCharacter
  split
  · next quote => subst quote; exact .short rfl
  · next notQuote =>
      split
      · next backslash => subst backslash; exact .short rfl
      · next notBackslash =>
          split
          · next feed => subst feed; exact .short rfl
          · split
            · next carriage => subst carriage; exact .short rfl
            · split
              · next tab => subst tab; exact .short rfl
              · split
                · next backspace => subst backspace; exact .short rfl
                · split
                  · next formFeed => subst formFeed; exact .short rfl
                  · split
                    · next control => exact .code (unitText_control control)
                    · next printable =>
                        exact .plain (Nat.not_lt.mp printable) notQuote notBackslash

/-- The writer's body of a string stands for the text. -/
theorem bodyText_escapeCharacters
    (value : List Char) :
    BodyText (value.flatMap escapeCharacter) value := by
  induction value with
  | nil => exact .nil
  | cons character value hypothesis =>
      exact .cons (characterText_escapeCharacter character) hypothesis

end InitializerJson.JsonText
