import InitializerJson.Character.Basic
import InitializerJson.Remainder

namespace InitializerJson.Lexical

/-!
# Raw text

Raw text stands between two runs of the same number of double quotes, three at
least, and knows no escapes.  When it reaches over lines it loses its frame:
the line break after the opening quotes, and the last line when that is blank,
whose blanks are the indentation that every other line loses too.
-/

open Character

/-- A text without the line break that it begins with. -/
def withoutLeadingBreak : List Char → List Char
  | '\n' :: rest => rest
  | '\r' :: '\n' :: rest => rest
  | text => text

/-- A text without the carriage return that it ends with. -/
def withoutTrailingReturn
    (text : List Char) :
    List Char :=
  if text.getLast? = some '\r' then
    text.dropLast
  else
    text

/-- A line without the indentation, if it begins with that. -/
def withoutIndentation
    (indentation line : List Char) :
    List Char :=
  (afterMark? indentation line).getD line

/--
A text over several lines without its last line, and the indentation, which is
that line.  A last line that holds more than blanks stays, and then nothing is
indentation.
-/
def withoutLastLine
    (text : List Char) :
    List Char × List Char :=
  let last := (text.reverse.takeWhile (· != '\n')).reverse
  if text.contains '\n' && last.all isWhiteSpace then
    (text.take (text.length - last.length - 1), last)
  else
    (text, [])

/-- The value of the text between the quotes. -/
def rawValue
    (content : List Char) :
    List Char :=
  if content.contains '\n' then
    let framed := withoutLastLine (withoutLeadingBreak content)
    ['\n'].intercalate
      ((splitAtEach '\n' (withoutTrailingReturn framed.1)).map
        (withoutIndentation framed.2))
  else
    content

/-- The value of raw text, and the text after it. -/
def rawText?
    (text : List Char) :
    Option (List Char × List Char) :=
  let quotes := text.takeWhile (· == '"')
  if 3 ≤ quotes.length then
    (splitAtMark? quotes (text.drop quotes.length)).map fun parts =>
      (rawValue parts.1, parts.2)
  else
    none

/-- Raw text takes its opening quotes at least. -/
theorem rawText?_properSuffix
    {text : List Char}
    {read : List Char × List Char}
    (found : rawText? text = some read) :
    ProperSuffix read.2 text := by
  unfold rawText? at found
  simp only at found
  split at found
  · next enough =>
      obtain ⟨parts, marked, rfl⟩ := Option.map_eq_some_iff.mp found
      have shape := congrArg List.length
        (List.takeWhile_append_dropWhile (p := (· == '"')) (l := text))
      have shorter : (text.drop (text.takeWhile (· == '"')).length).length < text.length := by
        rw [List.length_append] at shape
        rw [List.length_drop]
        omega
      have rawRest : parts.2 <:+ text.drop (text.takeWhile (· == '"')).length :=
        splitAtMark?_suffix marked
      exact ProperSuffix.of_suffix rawRest ⟨List.drop_suffix _ text, shorter⟩
  · cases found

end InitializerJson.Lexical
