import InitializerJson.Proofs.Expression.Segment
import InitializerJson.Proofs.Expression.SpelledTokens
import InitializerJson.Proofs.Lexical.LiteralLexeme
import InitializerJson.Proofs.Lexical.TokenSlices

namespace InitializerJson

open Lexical

/-!
# Literals as tokens

The tokens of literals, however they are written.  None is a bracket, and the words among
them are reserved.  Spelled in a source, they are read back wherever the literal ends.
-/

/-- A token that is a literal by itself. -/
def Lexical.Token.IsLiteral
    (token : Token) :
    Prop :=
  match token.kind with
  | .identifier word => word ∈ ["null", "true", "false", "default"]
  | .punctuator _ => False
  | .unknown _ => False
  | _ => True

/-- The tokens of a literal, of whatever size. -/
inductive LiteralTokens : List Token → Prop where
  | lone
      {token : Token}
      (isLiteral : token.IsLiteral) :
      LiteralTokens [token]
  | negative
      {sign token : Token}
      {text : String}
      (isMinus : sign.punctuator? = some .minus)
      (isNumeral : token.kind = .number text) :
      LiteralTokens [sign, token]

/-- The tokens of a literal that has a value. -/
inductive ScalarTokens : Literal → List Token → Prop where
  | null
      {token : Token}
      (isWord : token.kind = .identifier "null") :
      ScalarTokens .null [token]
  | truth
      {token : Token}
      (isWord : token.kind = .identifier "true") :
      ScalarTokens (.bool true) [token]
  | falsehood
      {token : Token}
      (isWord : token.kind = .identifier "false") :
      ScalarTokens (.bool false) [token]
  | default
      {token : Token}
      (isWord : token.kind = .identifier "default") :
      ScalarTokens (.verbatim "default") [token]
  | number
      {token : Token}
      {text : String}
      {value : Number}
      (isNumeral : token.kind = .number text)
      (inBounds : Number.ofLiteral? text false = some value) :
      ScalarTokens (.number value) [token]
  | negative
      {sign token : Token}
      {text : String}
      {value : Number}
      (isMinus : sign.kind = .punctuator .minus)
      (isNumeral : token.kind = .number text)
      (inBounds : Number.ofLiteral? text true = some value) :
      ScalarTokens (.number value) [sign, token]
  | string
      {token : Token}
      {value : String}
      (isText : token.kind = .string value) :
      ScalarTokens (.string value) [token]
  | character
      {token : Token}
      {text : String}
      (isCharacter : token.kind = .character text) :
      ScalarTokens (.verbatim text) [token]

/-- The token of a digit behind a gap. -/
def digitToken
    (gap : List Char)
    (digit : Char) :
    Token where
  kind := .number (String.ofList [digit])
  gap := gap
  lexeme := [digit]

/-- A mark is no word. -/
theorem Lexical.Token.word?_of_mark
    {token : Token}
    {mark : Punctuator}
    (isMark : token.punctuator? = some mark) :
    token.word? = none := by
  rcases token with ⟨kind, gap, lexeme⟩
  cases kind with
  | punctuator _ => rfl
  | _ => cases isMark

/-- A literal by itself is no mark. -/
theorem Lexical.Token.IsLiteral.punctuator?_eq
    {token : Token}
    (isLiteral : token.IsLiteral) :
    token.punctuator? = none := by
  rcases token with ⟨kind, gap, lexeme⟩
  cases kind with
  | punctuator mark => exact isLiteral.elim
  | _ => rfl

/-- A token that is no mark is plain. -/
theorem Lexical.Token.isPlain_of_noMark
    {token : Token}
    (noMark : token.punctuator? = none) :
    token.IsPlain false := by
  constructor <;> simp [Token.isOpener, Token.isCloser, noMark]

section Literals

variable
  {tokens : List Token}

/-- A literal is a segment. -/
theorem LiteralTokens.isSegment
    (literal : LiteralTokens tokens) :
    IsSegment tokens := by
  cases literal with
  | lone isLiteral => exact .plain (Token.isPlain_of_noMark isLiteral.punctuator?_eq) .nil
  | @negative sign token text isMinus isNumeral =>
      have numeral : token.punctuator? = none := by
        rw [Token.punctuator?, isNumeral]
      have minus : sign.IsPlain false := by
        constructor <;> simp [Token.isOpener, Token.isCloser, isMinus] <;> rfl
      exact .plain minus (.plain (Token.isPlain_of_noMark numeral) .nil)

/-- The words among the tokens of a literal are reserved. -/
theorem LiteralTokens.isReserved
    (literal : LiteralTokens tokens) :
    ∀ token ∈ tokens, ∀ word ∈ token.word?, InitializerJson.isReserved word = true := by
  have reserved : ∀ word ∈ ["null", "true", "false", "default"],
      InitializerJson.isReserved word = true := by
    decide +kernel
  cases literal with
  | @lone token isLiteral =>
      rcases token with ⟨kind, gap, lexeme⟩
      cases kind with
      | identifier word => simpa [Token.word?] using reserved word isLiteral
      | _ => simp [Token.word?]
  | @negative sign token text isMinus isNumeral =>
      have noWord : token.word? = none := by
        rw [Token.word?, isNumeral]
      simp [Token.word?_of_mark isMinus, noWord]

variable
  {literal : Literal}

/-- The tokens of a literal with a value are those of a literal. -/
theorem ScalarTokens.literalTokens
    (scalar : ScalarTokens literal tokens) :
    LiteralTokens tokens := by
  cases scalar with
  | @negative sign token text value isMinus isNumeral inBounds =>
      have signed : sign.punctuator? = some .minus := by
        rw [Token.punctuator?, isMinus]
      exact .negative signed isNumeral
  | null kind | truth kind | falsehood kind | default kind | number kind | string kind
  | character kind =>
      exact .lone (by simp [Token.IsLiteral, kind])

/-- The tokens of a literal are no brackets. -/
theorem ScalarTokens.isBracketed
    (scalar : ScalarTokens literal tokens) :
    IsBracketed tokens :=
  scalar.literalTokens.isSegment.isBracketed

/-- The words among the tokens of a literal with a value are reserved. -/
theorem ScalarTokens.isReserved
    (scalar : ScalarTokens literal tokens) :
    ∀ token ∈ tokens, ∀ word ∈ token.word?, InitializerJson.isReserved word = true :=
  scalar.literalTokens.isReserved

end Literals

/-- A numeral ends a minus sign before it. -/
theorem endsBefore_minus_of_number
    {text : String}
    {lexeme behind : List Char}
    (isLexeme : IsLexeme (.number text) lexeme behind)
    (rest : List Char) :
    Punctuator.minus.EndsBefore (lexeme ++ rest) := by
  obtain ⟨next, others, rfl, begins⟩ := exists_first_of_number isLexeme
  refine ⟨?_, fun isDot => by cases isDot⟩
  rintro _ ⟨⟩
  rcases begins with digit | rfl
  · intro continued
    have noDigit : Punctuator.minus.continuations.any Char.isDigit = false := by
      decide
    exact List.any_eq_false.mp noDigit next continued digit
  · decide

/-- The tokens of a literal that is spelled in a source are read back where it ends. -/
theorem ScalarTokens.areReadBack
    {literal : Literal}
    {tokens : List Token}
    (scalar : ScalarTokens literal tokens)
    (spaced : ∀ token ∈ tokens, IsSpaces token.gap)
    (reread : tokenize (String.ofList (spelling tokens)) = .ok tokens)
    {rest : List Char}
    (ends : EndsLiteral rest) :
    AreReadBack tokens rest := by
  have carries := (covers_of_tokenize reread).carriesLexeme
  have closed : ∀ token ∈ tokens, token.kind.isLiteral = true →
      IsClosedLexeme token.kind token.lexeme := by
    have read := isClosedLexeme_readTokens (spelling tokens)
    have shape := (tokenize_eq_ok_iff.mp reread).1
    rw [String.toList_ofList] at shape
    rwa [shape] at read
  cases scalar with
  | @negative sign token text value isMinus isNumeral _ =>
      obtain ⟨signSpaced, tokenSpaced, _⟩ := by
        simpa only [List.forall_mem_cons] using spaced
      have numeral : IsLexeme (.number text) token.lexeme rest := by
        rw [← isNumeral]
        exact closed token (by simp) (by rw [isNumeral]; rfl) rest ends
      have minus : sign.lexeme = Punctuator.minus.spelling := by
        have carried := carries sign (by simp) (by rw [isMinus]; rfl)
        rw [← carried, isMinus]
        rfl
      have minusEnds : Punctuator.minus.EndsBefore (spelling [token] ++ rest) := by
        rw [spelling_cons, List.append_assoc, List.append_assoc]
        exact endsBefore_behind_spaces tokenSpaced (endsBefore_minus_of_number numeral _)
      refine ⟨⟨signSpaced, ?_⟩, ⟨tokenSpaced, by rwa [isNumeral]⟩, trivial⟩
      rw [isMinus, minus]
      exact minusEnds.isLexeme (by decide)
  | null kind | truth kind | falsehood kind | default kind | number kind | string kind
  | character kind =>
      exact ⟨⟨spaced _ (by simp), closed _ (by simp) (by rw [kind]; rfl) rest ends⟩, trivial⟩

end InitializerJson
