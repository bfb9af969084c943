import InitializerJson.Character.Basic

namespace InitializerJson

/-!
# JSON text

How JSON text is laid out and how its strings are quoted.  Indented text gives
each member a line of its own and two spaces for each open container; compact
text has no space at all.  Empty containers are closed at once in both.

Strings escape the quote, the backslash and the control characters below
U+0020, and write every other character as it is.
-/

open Character

/-- The layout of JSON text. -/
inductive Layout where
  | indented
  | compact
  deriving Repr, DecidableEq, Inhabited

namespace Layout

/-- The break before a member or a closing bracket inside `depth` containers. -/
def lineBreak : Layout → Nat → List Char
  | indented, depth => '\n' :: List.replicate (2 * depth) ' '
  | compact, _ => []

/-- What stands between a member's name and its value. -/
def nameEnd : Layout → List Char
  | indented => [':', ' ']
  | compact => [':']

/-- Written items with a comma between them, each behind its line break. -/
def separated
    (layout : Layout)
    (depth : Nat)
    (items : List (List Char)) :
    List Char :=
  [','].intercalate (items.map (layout.lineBreak depth ++ ·))

/-- Written items in the brackets of a container that stands inside `depth` others. -/
def enclose
    (layout : Layout)
    (depth : Nat)
    (opening closing : Char)
    (items : List (List Char)) :
    List Char :=
  if items.isEmpty then
    [opening, closing]
  else
    opening :: layout.separated (depth + 1) items ++
      layout.lineBreak depth ++ [closing]

end Layout

/-- A character as it stands inside a JSON string. -/
def escapeCharacter
    (character : Char) :
    List Char :=
  if character = '"' then
    ['\\', '"']
  else if character = '\\' then
    ['\\', '\\']
  else if character = '\n' then
    ['\\', 'n']
  else if character = '\r' then
    ['\\', 'r']
  else if character = '\t' then
    ['\\', 't']
  else if character = '\x08' then
    ['\\', 'b']
  else if character = '\x0c' then
    ['\\', 'f']
  else if character.toNat < 0x20 then
    ['\\', 'u', '0', '0', hexDigit (character.toNat / 16), hexDigit (character.toNat % 16)]
  else
    [character]

/-- A text as a JSON string. -/
def quote
    (text : String) :
    List Char :=
  '"' :: text.toList.flatMap escapeCharacter ++ ['"']

/-- A member of a JSON object, its value already written. -/
def Layout.member
    (layout : Layout)
    (name : String)
    (value : List Char) :
    List Char :=
  quote name ++ layout.nameEnd ++ value

end InitializerJson
