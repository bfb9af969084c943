namespace InitializerJson

/-!
# Positions in a text

A position names a place by its line and column, both counted from one.
Columns count characters, and only the line feed ends a line.  An offset names
a place by the number of UTF-8 bytes before it.

`Position.after` counts the lines and columns of a whole text at once, and
`Position.advance` moves on by one character; `after_concat` says that the two
agree.
-/

/-- A place in a text, for people. -/
structure Position where
  line : Nat
  column : Nat
  deriving Repr, DecidableEq

namespace Position

/-- The place where every text begins. -/
def start : Position where
  line :=
    1
  column :=
    1

/-- The place after one more character. -/
def advance
    (position : Position)
    (character : Char) :
    Position :=
  if character = '\n' then
    ⟨position.line + 1, 1⟩
  else
    ⟨position.line, position.column + 1⟩

/-- The place right after the characters `before`. -/
def after
    (before : List Char) :
    Position where
  line :=
    before.count '\n' + 1
  column :=
    (before.reverse.takeWhile (· != '\n')).length + 1

/-- Nothing stands before the start of a text. -/
@[simp] theorem after_nil :
    after [] = start := by
  rfl

/-- Counting a text at once agrees with moving on by its characters. -/
@[simp] theorem after_concat
    (before : List Char)
    (character : Char) :
    after (before ++ [character]) = (after before).advance character := by
  by_cases newline : character = '\n'
  · simp [after, advance, newline]
  · simp [after, advance, newline]

end Position

/-- The number of bytes that characters take in UTF-8. -/
def byteLength
    (characters : List Char) :
    Nat :=
  characters.foldr (fun character length => character.utf8Size + length) 0

/--
The characters before a byte offset.  An offset past the end counts as the end,
and an offset inside a character has no answer.
-/
def charactersBefore? : List Char → Nat → Option (List Char)
  | [], _ => some []
  | character :: rest, offset =>
      if offset = 0 then
        some []
      else if character.utf8Size ≤ offset then
        (charactersBefore? rest (offset - character.utf8Size)).map (character :: ·)
      else
        none

/-- The position of a byte offset, when it lies between two characters. -/
def Position.ofOffset?
    (source : String)
    (offset : Nat) :
    Option Position :=
  (charactersBefore? source.toList offset).map Position.after

end InitializerJson
