import InitializerJson.Lexical.TokenRun

namespace InitializerJson

/-!
# Looking at and passing over tokens

What stands at the front of some tokens, how far a bracketed group or an
expression reaches by its brackets alone, and the text between two places.
-/

open Lexical

/-- The punctuator that a token is. -/
def Lexical.Token.punctuator?
    (token : Token) :
    Option Punctuator :=
  match token.kind with
  | .punctuator punctuator => some punctuator
  | _ => none

/-- The word that a token is, if it is an identifier or keyword. -/
def Lexical.Token.word?
    (token : Token) :
    Option String :=
  match token.kind with
  | .identifier word => some word
  | _ => none

/-- Whether the first token is a given punctuator. -/
def startsWith
    (punctuator : Punctuator) :
    List Token → Bool
  | [] => false
  | token :: _ => token.punctuator? == some punctuator

/-- The word that the first token is. -/
def firstWord? : List Token → Option String
  | [] => none
  | token :: _ => token.word?

/-- The tokens behind a punctuator, if they begin with it. -/
def skipOptional
    (punctuator : Punctuator)
    (tokens : List Token) :
    List Token :=
  if startsWith punctuator tokens then
    tokens.tail
  else
    tokens

/-- Whether a token opens a group. -/
def Lexical.Token.isOpener
    (token : Token) :
    Bool :=
  token.punctuator?.any Punctuator.isOpener

/-- Whether a token closes a group. -/
def Lexical.Token.isCloser
    (token : Token) :
    Bool :=
  token.punctuator?.any Punctuator.isCloser

/-- Whether a token ends an expression. -/
def Lexical.Token.isDelimiter
    (token : Token) :
    Bool :=
  token.punctuator?.any Punctuator.isDelimiter

/-- Whether an expression ends here: before a delimiter, or with the tokens. -/
def atExpressionEnd : List Token → Bool
  | [] => true
  | token :: _ => token.isDelimiter

/-- Whether a group opens here. -/
def atOpener : List Token → Bool
  | [] => false
  | token :: _ => token.isOpener

/--
The tokens behind a group, where `depth` brackets are open already.  Brackets
are counted without regard to their kind, and a group that is not closed
reaches to the end.
-/
def afterGroup : Nat → List Token → List Token
  | _, [] => []
  | depth, token :: rest =>
      if token.isOpener then
        afterGroup (depth + 1) rest
      else if token.isCloser then
        if depth ≤ 1 then
          rest
        else
          afterGroup (depth - 1) rest
      else
        afterGroup depth rest

/--
The tokens from the next delimiter on that stands outside the groups; `depth`
brackets are open already.
-/
def fromDelimiter : Nat → List Token → List Token
  | _, [] => []
  | 0, token :: rest =>
      if token.isDelimiter then
        token :: rest
      else if token.isOpener then
        fromDelimiter 1 rest
      else
        fromDelimiter 0 rest
  | depth + 1, token :: rest =>
      if token.isOpener then
        fromDelimiter (depth + 2) rest
      else if token.isCloser then
        fromDelimiter depth rest
      else
        fromDelimiter (depth + 1) rest

/-- The source text of tokens that follow each other, gaps between them included. -/
def sourceText : List Token → String
  | [] => ""
  | first :: others =>
      String.ofList
        (first.lexeme ++ others.flatMap fun token => token.gap ++ token.lexeme)

/-- The source text from the first of some tokens up to a later place. -/
def textUpTo
    (start rest : List Token) :
    String :=
  sourceText (taken start rest)

/-- Tokens that begin with a punctuator grow shorter by dropping it. -/
theorem length_tail_lt_of_startsWith
    {punctuator : Punctuator}
    {tokens : List Token}
    (starts : startsWith punctuator tokens = true) :
    tokens.tail.length < tokens.length := by
  cases tokens with
  | nil => cases starts
  | cons token rest => simp

/-- Passing over a punctuator leaves a suffix. -/
theorem skipOptional_suffix
    (punctuator : Punctuator)
    (tokens : List Token) :
    skipOptional punctuator tokens <:+ tokens := by
  unfold skipOptional
  split
  · exact List.tail_suffix tokens
  · exact List.suffix_refl tokens

/-- What stands behind a group is a suffix. -/
theorem afterGroup_suffix
    (depth : Nat)
    (tokens : List Token) :
    afterGroup depth tokens <:+ tokens := by
  fun_induction afterGroup depth tokens with
  | case1 => exact List.suffix_refl []
  | case2 depth token rest _ hypothesis => exact hypothesis.trans (List.suffix_cons token rest)
  | case3 depth token rest => exact List.suffix_cons token rest
  | case4 depth token rest _ _ _ hypothesis =>
      exact hypothesis.trans (List.suffix_cons token rest)
  | case5 depth token rest _ _ hypothesis =>
      exact hypothesis.trans (List.suffix_cons token rest)

/-- A group takes one token at least. -/
theorem afterGroup_length_lt
    {depth : Nat}
    {tokens : List Token}
    (nonempty : tokens ≠ []) :
    (afterGroup depth tokens).length < tokens.length := by
  cases tokens with
  | nil => exact absurd rfl nonempty
  | cons token rest =>
      rw [afterGroup]
      split
      · exact Nat.lt_succ_of_le (afterGroup_suffix _ rest).length_le
      · split
        · split
          · exact Nat.lt_succ_self _
          · exact Nat.lt_succ_of_le (afterGroup_suffix _ rest).length_le
        · exact Nat.lt_succ_of_le (afterGroup_suffix _ rest).length_le

/-- Passing over an expression leaves a suffix. -/
theorem fromDelimiter_suffix
    (depth : Nat)
    (tokens : List Token) :
    fromDelimiter depth tokens <:+ tokens := by
  fun_induction fromDelimiter depth tokens with
  | case1 => exact List.suffix_refl []
  | case2 token rest => exact List.suffix_refl (token :: rest)
  | case3 token rest _ _ hypothesis => exact hypothesis.trans (List.suffix_cons token rest)
  | case4 token rest _ _ hypothesis => exact hypothesis.trans (List.suffix_cons token rest)
  | case5 depth token rest _ hypothesis => exact hypothesis.trans (List.suffix_cons token rest)
  | case6 depth token rest _ _ hypothesis => exact hypothesis.trans (List.suffix_cons token rest)
  | case7 depth token rest _ _ hypothesis => exact hypothesis.trans (List.suffix_cons token rest)

end InitializerJson
