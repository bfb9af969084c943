import InitializerJson.Character.Basic
import InitializerJson.Remainder

namespace InitializerJson.Lexical

/-!
# Escape sequences

An escape sequence is a backslash with a letter or mark that stands for one
character, or with the code of the character in hexadecimal digits.  A code
that is no Unicode scalar value stands for the replacement character U+FFFD.
-/

open Character

/-- The letters and marks that stand for a character after a backslash. -/
def simpleEscapes : List (Char × Char) :=
  [
    ('n', '\n'), ('r', '\r'), ('t', '\t'), ('0', '\x00'), ('a', '\x07'),
    ('b', '\x08'), ('f', '\x0c'), ('v', '\x0b'), ('\\', '\\'), ('"', '"'),
    ('\'', '\'')
  ]

/-- The character of a code, or the replacement character where there is none. -/
def scalarOrReplacement
    (code : Nat) :
    Char :=
  if valid : code.isValidChar then
    Char.ofNatAux code valid
  else
    '\ufffd'

/--
The character whose code is written in at least `fewest` and at most `most`
hexadecimal digits, and the text after them.
-/
def codeEscape?
    (fewest most : Nat)
    (text : List Char) :
    Option (Char × List Char) :=
  let digits := (text.take most).takeWhile isHexDigit
  if fewest ≤ digits.length then
    some (scalarOrReplacement (positionalValue 16 digits), text.drop digits.length)
  else
    none

/-- The character of an escape sequence, and the text after it. -/
def escape? : List Char → Option (Char × List Char)
  | '\\' :: mark :: rest =>
      match simpleEscapes.lookup mark with
      | some character => some (character, rest)
      | none =>
          if mark = 'u' then
            codeEscape? 4 4 rest
          else if mark = 'U' then
            codeEscape? 8 8 rest
          else if mark = 'x' then
            codeEscape? 1 4 rest
          else
            none
  | _ => none

/-- The digits of a code leave a suffix. -/
theorem codeEscape?_suffix
    {fewest most : Nat}
    {text : List Char}
    {read : Char × List Char}
    (found : codeEscape? fewest most text = some read) :
    read.2 <:+ text := by
  unfold codeEscape? at found
  simp only at found
  split at found
  · cases found
    exact List.drop_suffix _ text
  · cases found

/-- An escape sequence takes its backslash at least. -/
theorem escape?_properSuffix
    {text : List Char}
    {read : Char × List Char}
    (found : escape? text = some read) :
    ProperSuffix read.2 text := by
  unfold escape? at found
  split at found
  · next mark rest =>
      have restSuffix : read.2 <:+ rest := by
        split at found
        · cases found
          exact List.suffix_refl rest
        · split at found
          · exact codeEscape?_suffix found
          · split at found
            · exact codeEscape?_suffix found
            · split at found
              · exact codeEscape?_suffix found
              · cases found
      exact (ProperSuffix.cons_of_suffix restSuffix).cons
  · cases found

end InitializerJson.Lexical
