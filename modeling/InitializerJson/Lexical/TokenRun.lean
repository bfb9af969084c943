import InitializerJson.Lexical.Token

namespace InitializerJson.Lexical

/-!
# Runs of tokens

Reading a text from its front gives a run of tokens, the gap after the last of
them, and the text from which nothing more could be read.  The run covers the
text when that remainder is empty.  Otherwise the remainder begins with a block
comment or a literal that does not end.
-/

/-- The tokens read from a text, and what is left of it. -/
structure TokenRun where
  tokens : List Token
  /-- The gap after the last token. -/
  gap : List Char
  /-- The text from which no token could be read. -/
  rest : List Char
  deriving Repr, DecidableEq

/-- A text begins with a block comment, which is not closed if no gap takes it. -/
def beginsComment : List Char → Bool
  | '/' :: '*' :: _ => true
  | _ => false

/-- The token kind right behind a gap; an open block comment has none. -/
def readBehindGap?
    (text : List Char) :
    Option (TokenKind × List Char) :=
  if beginsComment text then
    none
  else
    readKind? text

/-- What is read behind a gap is what the text there begins with. -/
theorem readKind?_of_readBehindGap?
    {text : List Char}
    {read : TokenKind × List Char}
    (found : readBehindGap? text = some read) :
    readKind? text = some read := by
  unfold readBehindGap? at found
  split at found
  · cases found
  · exact found

/-- A token behind a gap takes one character at least. -/
theorem readBehindGap?_properSuffix
    {text : List Char}
    {read : TokenKind × List Char}
    (found : readBehindGap? text = some read) :
    ProperSuffix read.2 text :=
  readKind?_properSuffix (readKind?_of_readBehindGap? found)

/-- All the tokens that can be read from the front of a text. -/
def readTokens
    (text : List Char) :
    TokenRun :=
  let start := afterGap text
  match _found : readBehindGap? start with
  | none => ⟨[], taken text start, start⟩
  | some (kind, rest) =>
      let run := readTokens rest
      ⟨⟨kind, taken text start, taken start rest⟩ :: run.tokens, run.gap, run.rest⟩
termination_by text.length
decreasing_by
  exact ((readBehindGap?_properSuffix _found).trans_suffix (afterGap_suffix text)).shorter

/-- What opens at a place and does not end. -/
inductive Unterminated where
  | blockComment
  | characterLiteral
  | stringLiteral
  deriving Repr, DecidableEq

namespace Unterminated

/-- What a remainder without a first token leaves open. -/
def ofRest : List Char → Unterminated
  | '/' :: '*' :: _ => blockComment
  | '\'' :: _ => characterLiteral
  | _ => stringLiteral

/-- The wording of what is left open. -/
def detail : Unterminated → String
  | blockComment => "unterminated block comment"
  | characterLiteral => "unterminated character literal"
  | stringLiteral => "unterminated string literal"

end Unterminated

/-- A source that cannot be read as tokens: where, and what is left open there. -/
structure SyntaxError where
  position : Position
  cause : Unterminated
  deriving Repr, DecidableEq

namespace SyntaxError

/-- The error in one line. -/
def message
    (error : SyntaxError) :
    String :=
  "syntax error at line " ++ toString error.position.line ++
    ", column " ++ toString error.position.column ++
    ": " ++ error.cause.detail

end SyntaxError

/-- The tokens of a whole source. -/
def tokenize
    (source : String) :
    Except SyntaxError (List Token) :=
  let text := source.toList
  let run := readTokens text
  if run.rest.isEmpty then
    .ok run.tokens
  else
    .error ⟨Position.after (taken text run.rest), Unterminated.ofRest run.rest⟩

/-- A source is read as some tokens exactly when nothing is left behind them. -/
theorem tokenize_eq_ok_iff
    {source : String}
    {tokens : List Token} :
    tokenize source = .ok tokens ↔
      (readTokens source.toList).tokens = tokens ∧
        (readTokens source.toList).rest = [] := by
  unfold tokenize
  simp only
  split
  · next complete =>
      simp [List.isEmpty_iff.mp complete]
  · next incomplete =>
      have left : (readTokens source.toList).rest ≠ [] := by
        simpa using incomplete
      simp [left]

end InitializerJson.Lexical
