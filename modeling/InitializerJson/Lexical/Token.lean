import InitializerJson.Lexical.Gap
import InitializerJson.Lexical.InterpolatedText
import InitializerJson.Lexical.Numeral
import InitializerJson.Lexical.Punctuator
import InitializerJson.Lexical.RawText
import InitializerJson.Position

namespace InitializerJson.Lexical

/-!
# Tokens

A token is what it stands for, the characters that write it, and the gap before
it.  A text begins with a token of the first class below that fits.
-/

open Character

/-- What a token stands for. -/
inductive TokenKind where
  /-- An identifier or keyword as written. -/
  | identifier (word : String)
  /-- A numeral as written. -/
  | number (text : String)
  /-- A text with its escapes resolved. -/
  | string (value : String)
  /-- A character literal as written. -/
  | character (text : String)
  /-- Interpolated text as written. -/
  | interpolated (text : String)
  | punctuator (punctuator : Punctuator)
  /-- A character that begins no other token. -/
  | unknown (character : Char)
  deriving Repr, DecidableEq

/-- A token with the gap before it and the characters that write it. -/
structure Token where
  kind : TokenKind
  gap : List Char
  lexeme : List Char
  deriving Repr, DecidableEq

/-- The text after an identifier, which may have `@` before it. -/
def afterIdentifier?
    (text : List Char) :
    Option (List Char) :=
  match optionally (afterMark? ['@']) text with
  | [] => none
  | first :: rest =>
      if beginsIdentifier first then
        some (rest.dropWhile continuesIdentifier)
      else
        none

/-- A lone character, unless it is a quote: those begin a literal or nothing. -/
def unknown? : List Char → Option (Char × List Char)
  | [] => none
  | character :: rest =>
      if character = '"' || character = '\'' then
        none
      else
        some (character, rest)

/-- A token kind with the text that it was read from, as written. -/
def asWritten
    (kind : String → TokenKind)
    (text rest : List Char) :
    TokenKind × List Char :=
  (kind (String.ofList (taken text rest)), rest)

/-- A token kind with the value that was read. -/
def asText
    (read : List Char × List Char) :
    TokenKind × List Char :=
  (.string (String.ofList read.1), read.2)

/--
The token kind that a text begins with, and the text after it.  The classes
are tried in order, and a literal that does not end is none.
-/
def readKind?
    (text : List Char) :
    Option (TokenKind × List Char) :=
  ((rawText? text).map asText).or <|
  ((afterInterpolatedText? text).map (asWritten .interpolated text)).or <|
  ((verbatimText? text).map asText).or <|
  ((regularText? text).map asText).or <|
  ((afterCharacterLiteral? text).map (asWritten .character text)).or <|
  ((afterNumeral? text).map (asWritten .number text)).or <|
  ((afterIdentifier? text).map (asWritten .identifier text)).or <|
  ((Punctuator.read? text).map fun read => (.punctuator read.1, read.2)).or <|
  (unknown? text).map fun read => (.unknown read.1, read.2)

/-- An identifier takes its first letter at least. -/
theorem afterIdentifier?_properSuffix
    {text rest : List Char}
    (found : afterIdentifier? text = some rest) :
    ProperSuffix rest text := by
  have marked : optionally (afterMark? ['@']) text <:+ text :=
    optionally_suffix (fun matched => ⟨_, (afterMark?_eq_some_iff.mp matched).symm⟩) text
  unfold afterIdentifier? at found
  split at found
  · cases found
  · next first others shape =>
      split at found
      · cases found
        rw [shape] at marked
        exact (ProperSuffix.cons_of_suffix
          (List.dropWhile_suffix continuesIdentifier)).trans_suffix marked
      · cases found

/-- A lone character is the first one of the text. -/
theorem unknown?_eq_cons
    {text : List Char}
    {read : Char × List Char}
    (found : unknown? text = some read) :
    text = read.1 :: read.2 := by
  unfold unknown? at found
  split at found
  · cases found
  · split at found
    · cases found
    · cases found
      rfl

/-- A token of any class takes one character at least. -/
theorem readKind?_properSuffix
    {text : List Char}
    {read : TokenKind × List Char}
    (found : readKind? text = some read) :
    ProperSuffix read.2 text := by
  simp only [readKind?, Option.or_eq_some_iff, Option.map_eq_some_iff] at found
  rcases found with
    ⟨part, raw, rfl⟩ | ⟨_, ⟨part, interpolated, rfl⟩ | ⟨_, ⟨part, verbatim, rfl⟩ |
    ⟨_, ⟨part, regular, rfl⟩ | ⟨_, ⟨part, character, rfl⟩ | ⟨_, ⟨part, numeral, rfl⟩ |
    ⟨_, ⟨part, identifier, rfl⟩ | ⟨_, ⟨part, punctuator, rfl⟩ |
    ⟨_, ⟨part, unknown, rfl⟩⟩⟩⟩⟩⟩⟩⟩⟩
  · exact rawText?_properSuffix raw
  · exact afterInterpolatedText?_properSuffix interpolated
  · exact verbatimText?_properSuffix verbatim
  · exact regularText?_properSuffix regular
  · exact afterCharacterLiteral?_properSuffix character
  · exact afterNumeral?_properSuffix numeral
  · exact afterIdentifier?_properSuffix identifier
  · exact Punctuator.read?_properSuffix punctuator
  · rw [unknown?_eq_cons unknown]
    exact ProperSuffix.tail

/-- A token at its place in the source. -/
structure PlacedToken where
  token : Token
  /-- The number of bytes before the token. -/
  offset : Nat
  position : Position

/-- The tokens with their places, when the first gap begins at the given place. -/
def placeFrom
    (offset : Nat)
    (position : Position) :
    List Token → List PlacedToken
  | [] => []
  | token :: rest =>
      let start := offset + byteLength token.gap
      let place := token.gap.foldl Position.advance position
      ⟨token, start, place⟩ ::
        placeFrom
          (start + byteLength token.lexeme)
          (token.lexeme.foldl Position.advance place)
          rest

namespace PlacedToken

/-- The number of bytes up to the end of the token. -/
def endOffset
    (placed : PlacedToken) :
    Nat :=
  placed.offset + byteLength placed.token.lexeme

end PlacedToken

/-- The tokens of a whole source with their places. -/
def placeTokens
    (tokens : List Token) :
    List PlacedToken :=
  placeFrom 0 Position.start tokens

end InitializerJson.Lexical
