import InitializerJson.Lexical.TokenRun

namespace InitializerJson.Lexical

/-!
# Listings of tokens

A listing gives each token with its position, class and text.  Texts and lone
characters are shown in quotes and with escapes: control characters, characters
without a printed form, and those that would join the character before them.
-/

open Character

/-- A character by its code, in hexadecimal digits between braces. -/
def showCode
    (character : Char) :
    List Char :=
  ['\\', 'u', '{'] ++ Nat.toDigits 16 character.toNat ++ ['}']

/-- A character inside the given quotes. -/
def showInside
    (mark character : Char) :
    List Char :=
  if character = '\x00' then
    ['\\', '0']
  else if character = '\t' then
    ['\\', 't']
  else if character = '\r' then
    ['\\', 'r']
  else if character = '\n' then
    ['\\', 'n']
  else if character = '\\' || character = mark then
    ['\\', character]
  else if joinsPrevious character || !isPrintable character then
    showCode character
  else
    [character]

/-- Some characters in the given quotes. -/
def showQuoted
    (mark : Char)
    (characters : List Char) :
    String :=
  String.ofList (mark :: characters.flatMap (showInside mark) ++ [mark])

namespace TokenKind

/-- The name of a class of tokens. -/
def className : TokenKind → String
  | identifier _ => "ident"
  | number _ => "number"
  | string _ => "string"
  | character _ => "char"
  | interpolated _ => "interpolated"
  | punctuator _ => "punct"
  | unknown _ => "unknown"

/-- The text that a token carries. -/
def text : TokenKind → String
  | identifier word => word
  | number text => text
  | string value => value
  | character text => text
  | interpolated text => text
  | punctuator symbol => String.ofList symbol.spelling
  | unknown lone => String.ofList [lone]

/-- The text that a token carries, in quotes where it is not as written. -/
def shownText : TokenKind → String
  | string value => showQuoted '"' value.toList
  | unknown lone => showQuoted '\'' [lone]
  | kind => kind.text

end TokenKind

/-- A token as a line of a listing. -/
def PlacedToken.listingLine
    (placed : PlacedToken) :
    String :=
  toString placed.position.line ++ ":" ++ toString placed.position.column ++
    "\t" ++ placed.token.kind.className ++ "\t" ++ placed.token.kind.shownText ++ "\n"

/-- The listing of the tokens of a source. -/
def listing
    (tokens : List Token) :
    String :=
  String.join ((placeTokens tokens).map PlacedToken.listingLine)

end InitializerJson.Lexical
