import InitializerJson.Character.Alphabetic
import InitializerJson.Character.DefaultIgnorable
import InitializerJson.Character.Numeric
import InitializerJson.Character.GraphemeExtend
import InitializerJson.Character.Unprintable

namespace InitializerJson.Character

/-!
# Classes of characters

The classes that the lexical grammar and the quoted form of a text rest on.
Classes that reach beyond ASCII look their characters up in tables of closed
ranges of code points; below U+0080 they are decided directly.
-/

/-- A table of closed ranges holds a character when one of its ranges does. -/
def inTable
    (table : List (Nat × Nat))
    (character : Char) :
    Bool :=
  table.any fun range =>
    range.1 ≤ character.toNat && character.toNat ≤ range.2

/-- The closed ranges of the Unicode property `White_Space`. -/
def whiteSpaceRanges : List (Nat × Nat) :=
  [
    (0x9, 0xd), (0x20, 0x20), (0x85, 0x85), (0xa0, 0xa0), (0x1680, 0x1680),
    (0x2000, 0x200a), (0x2028, 0x2029), (0x202f, 0x202f), (0x205f, 0x205f),
    (0x3000, 0x3000)
  ]

/-- White space, by the Unicode property of that name. -/
def isWhiteSpace
    (character : Char) :
    Bool :=
  inTable whiteSpaceRanges character

/-- Blanks part tokens: white space, and the byte order mark U+FEFF. -/
def isBlank
    (character : Char) :
    Bool :=
  isWhiteSpace character || character == '\ufeff'

/-- Letters in the sense of the Unicode property `Alphabetic`. -/
def isAlphabetic
    (character : Char) :
    Bool :=
  if character.toNat < 0x80 then
    character.isAlpha
  else
    inTable alphabeticRanges character

/-- Letters, and the numeric characters of the categories `Nd`, `Nl` and `No`. -/
def isAlphanumeric
    (character : Char) :
    Bool :=
  if character.toNat < 0x80 then
    character.isAlphanum
  else
    inTable alphabeticRanges character || inTable numericRanges character

/-- The characters that may begin an identifier. -/
def beginsIdentifier
    (character : Char) :
    Bool :=
  isAlphabetic character || character == '_'

/-- The characters that may stand in an identifier after its first one. -/
def continuesIdentifier
    (character : Char) :
    Bool :=
  isAlphanumeric character || character == '_'

/-- A digit of the binary system. -/
def isBinaryDigit
    (character : Char) :
    Bool :=
  character == '0' || character == '1'

/-- A digit of the hexadecimal system, in either case. -/
def isHexDigit
    (character : Char) :
    Bool :=
  character.isDigit
    || ('a' ≤ character && character ≤ 'f')
    || ('A' ≤ character && character ≤ 'F')

/-- The value of a digit in the systems up to base sixteen. -/
def digitValue
    (character : Char) :
    Nat :=
  if character.isDigit then
    character.toNat - '0'.toNat
  else if 'a' ≤ character then
    character.toNat - 'a'.toNat + 10
  else
    character.toNat - 'A'.toNat + 10

/-- The number that digits write in a positional system, first digit first. -/
def positionalValue
    (base : Nat)
    (digits : List Char) :
    Nat :=
  digits.foldl (fun value digit => base * value + digitValue digit) 0

/-- The digits zero to fifteen, in lower case. -/
def hexDigits : List Char :=
  [
    '0', '1', '2', '3', '4', '5', '6', '7',
    '8', '9', 'a', 'b', 'c', 'd', 'e', 'f'
  ]

/-- A number below sixteen as one hexadecimal digit. -/
def hexDigit
    (value : Nat) :
    Char :=
  hexDigits.getD value '0'

/--
The halfwidth katakana sound marks.  They extend graphemes, but stand in a cell
of their own.
-/
def isHalfwidthSoundMark
    (character : Char) :
    Bool :=
  character == '\uff9e' || character == '\uff9f'

/-- Characters that join the one before them and have no room of their own. -/
def joinsPrevious
    (character : Char) :
    Bool :=
  inTable graphemeExtendRanges character && !isHalfwidthSoundMark character

/-- Printable characters have a visible form: they are neither unprintable nor ignorable. -/
def isPrintable
    (character : Char) :
    Bool :=
  !inTable unprintableRanges character && !inTable defaultIgnorableRanges character

end InitializerJson.Character
