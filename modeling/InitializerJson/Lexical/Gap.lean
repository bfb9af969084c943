import InitializerJson.Character.Basic
import InitializerJson.Remainder

namespace InitializerJson.Lexical

/-!
# Gaps between tokens

Between tokens stand blanks, comments and directive lines.  A gap is the
longest run of such pieces.  A line comment or directive reaches up to its line
end, and is none at all when a carriage return stands alone in its line; a
block comment is none before it is closed.
-/

open Character

/--
The rest of the text from the line end on.  A line ends at a line feed, with
the carriage return before it if there is one, or with the text; a carriage
return that stands alone spoils the line.
-/
def lineEnd? : List Char → Option (List Char)
  | [] => some []
  | '\n' :: rest => some ('\n' :: rest)
  | '\r' :: '\n' :: rest => some ('\r' :: '\n' :: rest)
  | '\r' :: _ => none
  | _ :: rest => lineEnd? rest

/-- The text after one blank, comment or directive. -/
def afterGapPiece? : List Char → Option (List Char)
  | '/' :: '/' :: rest => lineEnd? rest
  | '/' :: '*' :: rest => (splitAtMark? ['*', '/'] rest).map Prod.snd
  | '#' :: rest => lineEnd? rest
  | character :: rest => if isBlank character then some rest else none
  | [] => none

/-- A line end stands in the text. -/
theorem lineEnd?_suffix
    {text rest : List Char}
    (found : lineEnd? text = some rest) :
    rest <:+ text := by
  fun_induction lineEnd? text <;> grind [List.suffix_cons_iff]

/-- A piece of a gap takes one character at least. -/
theorem afterGapPiece?_properSuffix
    {text rest : List Char}
    (found : afterGapPiece? text = some rest) :
    ProperSuffix rest text := by
  unfold afterGapPiece? at found
  split at found
  · exact (ProperSuffix.cons_of_suffix (lineEnd?_suffix found)).cons
  · obtain ⟨parts, split, rfl⟩ := Option.map_eq_some_iff.mp found
    exact (ProperSuffix.cons_of_suffix (splitAtMark?_suffix split)).cons
  · exact ProperSuffix.cons_of_suffix (lineEnd?_suffix found)
  · split at found
    · cases found
      exact ProperSuffix.tail
    · cases found
  · cases found

/-- The text after the gap that it begins with. -/
def afterGap
    (text : List Char) :
    List Char :=
  match _piece : afterGapPiece? text with
  | some rest => afterGap rest
  | none => text
termination_by text.length
decreasing_by exact (afterGapPiece?_properSuffix _piece).shorter

/-- What stands behind a gap is a suffix. -/
theorem afterGap_suffix
    (text : List Char) :
    afterGap text <:+ text := by
  fun_induction afterGap text with
  | case1 text rest piece hypothesis =>
      exact hypothesis.trans (afterGapPiece?_properSuffix piece).suffix
  | case2 text piece => exact List.suffix_refl text

end InitializerJson.Lexical
