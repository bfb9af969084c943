import InitializerJson.Expression.Basic
import InitializerJson.Expression.DeclaredType
import InitializerJson.Expression.Words

namespace InitializerJson

/-!
# Reading expressions

Reading never fails.  What is no literal, call, creation or assignment is passed
over up to the next delimiter outside its groups and kept as text.

An expression holds expressions in its arguments, entries and assigned values.
Each layer of the reading takes the reader of those inner expressions as a
parameter, and `expressionReader` closes the knot: its argument is the number of
layers that may still open, and with none left an expression is passed over as a
whole.
-/

open Lexical

/-- A way to read from the front of some tokens that leaves a suffix of them. -/
structure Reader (α : Type) where
  read : List Token → α × List Token
  suffix : ∀ tokens, (read tokens).2 <:+ tokens

/-- The tokens behind the label of a named argument, if there is one. -/
def skipLabel
    (tokens : List Token) :
    List Token :=
  if (firstWord? tokens).isSome && startsWith .colon tokens.tail then
    tokens.tail.tail
  else
    tokens

/-- Passing over a label leaves a suffix. -/
theorem skipLabel_suffix
    (tokens : List Token) :
    skipLabel tokens <:+ tokens := by
  unfold skipLabel
  split
  · exact (List.tail_suffix tokens.tail).trans (List.tail_suffix tokens)
  · exact List.suffix_refl tokens

/--
The arguments from the front of some tokens on, and the tokens behind their
closing parenthesis.  Behind a comma there is always another argument.
-/
def readArgumentList
    (inner : Reader Expression)
    (tokens : List Token) :
    List Expression × List Token :=
  match _reading : inner.read (skipLabel tokens) with
  | (first, behind) =>
      if _comma : startsWith .comma behind then
        let others := readArgumentList inner behind.tail
        (first :: others.1, others.2)
      else
        ([first], skipOptional .closeParenthesis behind)
termination_by tokens.length
decreasing_by
  have suffix := inner.suffix (skipLabel tokens)
  rw [_reading] at suffix
  exact Nat.lt_of_lt_of_le (length_tail_lt_of_startsWith _comma)
    (suffix.trans (skipLabel_suffix tokens)).length_le

/-- The arguments behind an opening parenthesis. -/
def readArguments
    (inner : Reader Expression)
    (tokens : List Token) :
    List Expression × List Token :=
  if startsWith .closeParenthesis tokens then
    ([], tokens.tail)
  else
    readArgumentList inner tokens

/--
The entries behind an opening brace, and the tokens behind the closing brace.
A comma may stand behind the last entry, and the tokens may end in a block.
-/
def readEntries
    (inner : Reader Expression)
    (tokens : List Token) :
    List Expression × List Token :=
  if tokens.isEmpty then
    ([], [])
  else if startsWith .closeBrace tokens then
    ([], tokens.tail)
  else
    match _reading : inner.read tokens with
    | (first, behind) =>
        if _comma : startsWith .comma behind then
          let others := readEntries inner behind.tail
          (first :: others.1, others.2)
        else
          ([first], skipOptional .closeBrace behind)
termination_by tokens.length
decreasing_by
  have suffix := inner.suffix tokens
  rw [_reading] at suffix
  exact Nat.lt_of_lt_of_le (length_tail_lt_of_startsWith _comma) suffix.length_le

/-- The block that the tokens begin with, if they do. -/
def readBlock?
    (inner : Reader Expression)
    (tokens : List Token) :
    Option (List Expression) × List Token :=
  if startsWith .openBrace tokens then
    let entries := readEntries inner tokens.tail
    (some entries.1, entries.2)
  else
    (none, tokens)

/-- The tokens behind a group, if they begin with the given bracket. -/
def skipOptionalGroup
    (opener : Punctuator)
    (tokens : List Token) :
    List Token :=
  if startsWith opener tokens then
    afterGroup 0 tokens
  else
    tokens

/-- The text from a place up to another as an expression of no known form. -/
def unsupportedUpTo
    (start rest : List Token) :
    Expression × List Token :=
  (.unsupported (textUpTo start rest), rest)

/-- The arguments of a creation, which may be left out before its block. -/
def readOptionalArguments
    (inner : Reader Expression)
    (tokens : List Token) :
    List Expression × List Token :=
  if startsWith .openParenthesis tokens then
    readArguments inner tokens.tail
  else
    ([], tokens)

/--
The creation whose `new` is the first token.  Anonymous objects and arrays are
passed over.
-/
def readCreation
    (inner : Reader Expression)
    (tokens : List Token) :
    Expression × List Token :=
  let behind := tokens.tail
  if startsWith .openParenthesis behind then
    let arguments := readArguments inner behind.tail
    let block := readBlock? inner arguments.2
    (.targetTypedCreation arguments.1 block.1, block.2)
  else if startsWith .openBrace behind || startsWith .openBracket behind then
    unsupportedUpTo tokens (skipOptionalGroup .openBrace (afterGroup 0 behind))
  else
    match readDeclaredType behind with
    | (.malformed, rest) => unsupportedUpTo tokens rest
    | (.array, rest) => unsupportedUpTo tokens (skipOptionalGroup .openBrace rest)
    | (.named type, rest) =>
        let arguments := readOptionalArguments inner rest
        let block := readBlock? inner arguments.2
        (.creation type arguments.1 block.1, block.2)

/-- Whether a member access and an identifier come first. -/
def startsMember
    (tokens : List Token) :
    Bool :=
  (startsWith .dot tokens || startsWith .conditionalDot tokens ||
    startsWith .scope tokens) && (firstWord? tokens.tail).isSome

/-- A member access takes two tokens. -/
theorem length_lt_of_startsMember
    {tokens : List Token}
    (starts : startsMember tokens = true) :
    tokens.tail.tail.length < tokens.length := by
  cases tokens with
  | nil => simp [startsMember, startsWith] at starts
  | cons token rest =>
      simp only [List.tail_cons, List.length_tail, List.length_cons]
      omega

/-- Reading an argument list leaves a suffix. -/
theorem readArgumentList_suffix
    (inner : Reader Expression)
    (tokens : List Token) :
    (readArgumentList inner tokens).2 <:+ tokens := by
  fun_induction readArgumentList inner tokens with
  | case1 tokens first behind reading comma others hypothesis =>
      have suffix := inner.suffix (skipLabel tokens)
      rw [reading] at suffix
      exact (hypothesis.trans (List.tail_suffix behind)).trans
        (suffix.trans (skipLabel_suffix tokens))
  | case2 tokens first behind reading =>
      have suffix := inner.suffix (skipLabel tokens)
      rw [reading] at suffix
      exact (skipOptional_suffix .closeParenthesis behind).trans
        (suffix.trans (skipLabel_suffix tokens))

/-- Reading arguments leaves a suffix. -/
theorem readArguments_suffix
    (inner : Reader Expression)
    (tokens : List Token) :
    (readArguments inner tokens).2 <:+ tokens := by
  unfold readArguments
  split
  · exact List.tail_suffix tokens
  · exact readArgumentList_suffix inner tokens

/-- The last part of a chain of members, calls and indexes. -/
inductive ChainEnd where
  | member
  /-- A call, with the tokens from its opening parenthesis on. -/
  | call (opening : List Token) (arguments : List Expression)
  | access

/-- The expression that a chain is, when it ends before `rest`. -/
def ChainEnd.toExpression
    (start rest : List Token) :
    ChainEnd → Expression
  | member => .name (textUpTo start rest)
  | call opening arguments => .invocation (textUpTo start opening) arguments
  | access => .unsupported (textUpTo start rest)

/--
The members, calls and indexes behind the head of a chain; `start` begins with
the head, and `last` is what the chain ends with so far.
-/
def readChain
    (inner : Reader Expression)
    (start : List Token)
    (last : ChainEnd)
    (tokens : List Token) :
    Expression × List Token :=
  if _member : startsMember tokens then
    readChain inner start .member tokens.tail.tail
  else if _call : startsWith .openParenthesis tokens then
    match _reading : readArguments inner tokens.tail with
    | (arguments, behind) => readChain inner start (.call tokens arguments) behind
  else if _access : startsWith .openBracket tokens then
    readChain inner start .access (afterGroup 0 tokens)
  else
    (last.toExpression start tokens, tokens)
termination_by tokens.length
decreasing_by
  · exact length_lt_of_startsMember _member
  · have suffix := readArguments_suffix inner tokens.tail
    rw [_reading] at suffix
    exact Nat.lt_of_le_of_lt suffix.length_le (length_tail_lt_of_startsWith _call)
  · exact afterGroup_length_lt (ne_nil_of_startsWith _access)

/-- One token, or the group it opens, as an expression of no known form. -/
def readUnsupported
    (tokens : List Token) :
    Expression × List Token :=
  if atOpener tokens then
    unsupportedUpTo tokens (afterGroup 0 tokens)
  else if atExpressionEnd tokens then
    unsupportedUpTo tokens tokens
  else
    unsupportedUpTo tokens tokens.tail

/-- A numeral as a number, or as text if it is out of bounds. -/
def numberUpTo
    (text : String)
    (negative : Bool)
    (start rest : List Token) :
    Expression × List Token :=
  match Number.ofLiteral? text negative with
  | some value => (.literal (.number value), rest)
  | none => unsupportedUpTo start rest

/-- The expression that begins with a minus sign. -/
def readNegative
    (tokens : List Token) :
    Expression × List Token :=
  match tokens.tail with
  | [] => readUnsupported tokens
  | token :: rest =>
      match token.kind with
      | .number text => numberUpTo text true tokens rest
      | _ => readUnsupported tokens

/-- The expression that begins with a word. -/
def readWord
    (inner : Reader Expression)
    (word : String)
    (tokens : List Token) :
    Expression × List Token :=
  if word = "null" then
    (.literal .null, tokens.tail)
  else if word = "true" then
    (.literal (.bool true), tokens.tail)
  else if word = "false" then
    (.literal (.bool false), tokens.tail)
  else if word = "default" && !startsWith .openParenthesis tokens.tail then
    (.literal (.verbatim word), tokens.tail)
  else if word = "new" then
    readCreation inner tokens
  else if beginsChain word then
    readChain inner tokens .member tokens.tail
  else
    readUnsupported tokens

/-- An expression without the operators that may follow it. -/
def readPrimary
    (inner : Reader Expression)
    (tokens : List Token) :
    Expression × List Token :=
  match tokens with
  | [] => (.unsupported "", [])
  | token :: rest =>
      match token.kind with
      | .number text => numberUpTo text false tokens rest
      | .string value => (.literal (.string value), rest)
      | .character text => (.literal (.verbatim text), rest)
      | .identifier word => readWord inner word tokens
      | .punctuator .minus => readNegative tokens
      | .punctuator .openBrace =>
          let entries := readEntries inner rest
          (.initializer entries.1, entries.2)
      | .punctuator .openBracket =>
          let behind := afterGroup 0 tokens
          (.index (textUpTo tokens behind), behind)
      | _ => readUnsupported tokens

/--
An expression with what follows it: the value behind the sign of an assignment,
or operators, which make it an expression of no known form.
-/
def readOperation
    (inner : Reader Expression)
    (tokens : List Token) :
    Expression × List Token :=
  match readPrimary inner tokens with
  | (left, behind) =>
      if startsWith .assign behind && left.isAssignable then
        let bare := left.isName && behind.length + 1 == tokens.length
        let value := inner.read behind.tail
        (.assignment (textUpTo tokens behind) bare value.1, value.2)
      else if atExpressionEnd behind then
        (left, behind)
      else
        unsupportedUpTo tokens (fromDelimiter 0 behind)

/-- The expression up to the next delimiter, passed over as a whole. -/
def passExpression
    (tokens : List Token) :
    Expression × List Token :=
  unsupportedUpTo tokens (fromDelimiter 0 tokens)

/-- Reading the entries of a block leaves a suffix. -/
theorem readEntries_suffix
    (inner : Reader Expression)
    (tokens : List Token) :
    (readEntries inner tokens).2 <:+ tokens := by
  fun_induction readEntries inner tokens with
  | case1 tokens => exact List.nil_suffix
  | case2 tokens => exact List.tail_suffix tokens
  | case3 tokens _ _ first behind reading comma others hypothesis =>
      have suffix := inner.suffix tokens
      rw [reading] at suffix
      exact (hypothesis.trans (List.tail_suffix behind)).trans suffix
  | case4 tokens _ _ first behind reading =>
      have suffix := inner.suffix tokens
      rw [reading] at suffix
      exact (skipOptional_suffix .closeBrace behind).trans suffix

/-- Reading a block that may be absent leaves a suffix. -/
theorem readBlock?_suffix
    (inner : Reader Expression)
    (tokens : List Token) :
    (readBlock? inner tokens).2 <:+ tokens := by
  unfold readBlock?
  split
  · exact (readEntries_suffix inner tokens.tail).trans (List.tail_suffix tokens)
  · exact List.suffix_refl tokens

/-- Passing over a group that may be absent leaves a suffix. -/
theorem skipOptionalGroup_suffix
    (opener : Punctuator)
    (tokens : List Token) :
    skipOptionalGroup opener tokens <:+ tokens := by
  unfold skipOptionalGroup
  split
  · exact afterGroup_suffix 0 tokens
  · exact List.suffix_refl tokens

/-- Reading arguments that may be absent leaves a suffix. -/
theorem readOptionalArguments_suffix
    (inner : Reader Expression)
    (tokens : List Token) :
    (readOptionalArguments inner tokens).2 <:+ tokens := by
  unfold readOptionalArguments
  split
  · exact (readArguments_suffix inner tokens.tail).trans (List.tail_suffix tokens)
  · exact List.suffix_refl tokens

/-- Reading a creation leaves a suffix of the tokens behind its `new`. -/
theorem readCreation_suffix_tail
    (inner : Reader Expression)
    (tokens : List Token) :
    (readCreation inner tokens).2 <:+ tokens.tail := by
  unfold readCreation
  simp only
  split
  · exact ((readBlock?_suffix inner _).trans (readArguments_suffix inner _)).trans
      (List.tail_suffix tokens.tail)
  · split
    · exact (skipOptionalGroup_suffix .openBrace _).trans (afterGroup_suffix 0 tokens.tail)
    · have typeSuffix := readDeclaredType_suffix tokens.tail
      split
      · next rest shape =>
          rw [shape] at typeSuffix
          exact typeSuffix
      · next rest shape =>
          rw [shape] at typeSuffix
          exact (skipOptionalGroup_suffix .openBrace rest).trans typeSuffix
      · next type rest shape =>
          rw [shape] at typeSuffix
          exact ((readBlock?_suffix inner _).trans
            (readOptionalArguments_suffix inner rest)).trans typeSuffix

/-- Reading a creation leaves a suffix. -/
theorem readCreation_suffix
    (inner : Reader Expression)
    (tokens : List Token) :
    (readCreation inner tokens).2 <:+ tokens :=
  (readCreation_suffix_tail inner tokens).trans (List.tail_suffix tokens)

/-- Reading a chain leaves a suffix of the tokens behind its head. -/
theorem readChain_suffix
    (inner : Reader Expression)
    (start : List Token)
    (last : ChainEnd)
    (tokens : List Token) :
    (readChain inner start last tokens).2 <:+ tokens := by
  fun_induction readChain inner start last tokens with
  | case1 last tokens _ hypothesis =>
      exact hypothesis.trans
        ((List.tail_suffix tokens.tail).trans (List.tail_suffix tokens))
  | case2 last tokens _ _ arguments behind reading hypothesis =>
      have suffix := readArguments_suffix inner tokens.tail
      rw [reading] at suffix
      exact hypothesis.trans (suffix.trans (List.tail_suffix tokens))
  | case3 last tokens _ _ _ hypothesis => exact hypothesis.trans (afterGroup_suffix 0 tokens)
  | case4 last tokens => exact List.suffix_refl tokens

/-- Passing over one token or group leaves a suffix. -/
theorem readUnsupported_suffix
    (tokens : List Token) :
    (readUnsupported tokens).2 <:+ tokens := by
  unfold readUnsupported
  split
  · exact afterGroup_suffix 0 tokens
  · split
    · exact List.suffix_refl tokens
    · exact List.tail_suffix tokens

/-- A numeral ends where it was said to end, in bounds or not. -/
theorem numberUpTo_rest
    (text : String)
    (negative : Bool)
    (start rest : List Token) :
    (numberUpTo text negative start rest).2 = rest := by
  unfold numberUpTo
  split <;> rfl

/-- Reading from a minus sign leaves a suffix. -/
theorem readNegative_suffix
    (tokens : List Token) :
    (readNegative tokens).2 <:+ tokens := by
  unfold readNegative
  split
  · exact readUnsupported_suffix tokens
  · next token rest shape =>
      split
      · rw [numberUpTo_rest]
        exact (List.suffix_cons token rest).trans (shape ▸ List.tail_suffix tokens)
      · exact readUnsupported_suffix tokens

/-- Reading from a word leaves a suffix. -/
theorem readWord_suffix
    (inner : Reader Expression)
    (word : String)
    (tokens : List Token) :
    (readWord inner word tokens).2 <:+ tokens := by
  have tailSuffix := List.tail_suffix tokens
  unfold readWord
  split
  · exact tailSuffix
  · split
    · exact tailSuffix
    · split
      · exact tailSuffix
      · split
        · exact tailSuffix
        · split
          · exact readCreation_suffix inner tokens
          · split
            · exact (readChain_suffix inner tokens _ tokens.tail).trans tailSuffix
            · exact readUnsupported_suffix tokens

/-- Reading an expression without operators leaves a suffix. -/
theorem readPrimary_suffix
    (inner : Reader Expression)
    (tokens : List Token) :
    (readPrimary inner tokens).2 <:+ tokens := by
  unfold readPrimary
  split
  · exact List.suffix_refl []
  · next token rest =>
      have restSuffix := List.suffix_cons token rest
      split
      · rw [numberUpTo_rest]
        exact restSuffix
      · exact restSuffix
      · exact restSuffix
      · exact readWord_suffix inner _ _
      · exact readNegative_suffix _
      · exact (readEntries_suffix inner rest).trans restSuffix
      · exact afterGroup_suffix 0 _
      · exact readUnsupported_suffix _

/-- Reading an expression leaves a suffix, whatever follows its first part. -/
theorem readOperation_suffix
    (inner : Reader Expression)
    (tokens : List Token) :
    (readOperation inner tokens).2 <:+ tokens := by
  have primary := readPrimary_suffix inner tokens
  unfold readOperation
  split
  next left behind shape =>
    rw [shape] at primary
    split
    · exact (inner.suffix behind.tail).trans ((List.tail_suffix behind).trans primary)
    · split
      · exact primary
      · exact (fromDelimiter_suffix 0 behind).trans primary

/-- The reader of expressions that passes over every expression. -/
def passingReader : Reader Expression where
  read :=
    passExpression
  suffix :=
    fromDelimiter_suffix 0

/-- The reader of expressions whose inner expressions are read by another reader. -/
def layeredReader
    (inner : Reader Expression) :
    Reader Expression where
  read :=
    readOperation inner
  suffix :=
    readOperation_suffix inner

/-- The reader of expressions that may still open `room` layers. -/
def expressionReader : (room : Nat) → Reader Expression
  | 0 => passingReader
  | room + 1 => layeredReader (expressionReader room)

/-- The number of layers that an expression may open, itself included. -/
def nestingLimit : Nat :=
  128

/-- The expression that the tokens begin with, and the tokens behind it. -/
def readExpression
    (tokens : List Token) :
    Expression × List Token :=
  (expressionReader nestingLimit).read tokens

end InitializerJson
