import InitializerJson.Expression.Cursor

namespace InitializerJson

/-!
# Declared types

The type that an object creation names: identifiers joined by dots or double
colons, each with type arguments if it has any, and a question mark at the end.
Only angle brackets are counted inside type arguments.  A type with array ranks
behind it is no type of an object.
-/

open Lexical

/-- What was read as the type of a creation. -/
inductive DeclaredType where
  | named (text : String)
  | array
  | malformed
  deriving Repr, DecidableEq

/-- The punctuators that may stand among type arguments, angle brackets apart. -/
def Lexical.Punctuator.joinsTypes : Punctuator → Bool
  | comma => true
  | dot => true
  | question => true
  | openBracket => true
  | closeBracket => true
  | openParenthesis => true
  | closeParenthesis => true
  | scope => true
  | star => true
  | _ => false

/-- Whether a token may stand among type arguments, angle brackets apart. -/
def Lexical.Token.isTypePart
    (token : Token) :
    Bool :=
  match token.kind with
  | .identifier _ => true
  | .punctuator punctuator => punctuator.joinsTypes
  | _ => false

/--
Whether type arguments are closed, and the tokens behind them or from the first
token on that cannot belong to them; `depth` angle brackets are open already.
-/
def readTypeArguments : Nat → List Token → Bool × List Token
  | _, [] => (false, [])
  | depth, token :: rest =>
      if token.punctuator? = some .less then
        readTypeArguments (depth + 1) rest
      else if token.punctuator? = some .greater then
        if depth ≤ 1 then
          (true, rest)
        else
          readTypeArguments (depth - 1) rest
      else if token.isTypePart then
        readTypeArguments depth rest
      else
        (false, token :: rest)

/-- Whether a dot or double colon and an identifier come first. -/
def startsQualifier
    (tokens : List Token) :
    Bool :=
  (startsWith .dot tokens || startsWith .scope tokens) &&
    (firstWord? tokens.tail).isSome

/-- Type arguments leave a suffix, closed or not. -/
theorem readTypeArguments_suffix
    (depth : Nat)
    (tokens : List Token) :
    (readTypeArguments depth tokens).2 <:+ tokens := by
  fun_induction readTypeArguments depth tokens with
  | case1 => exact List.suffix_refl []
  | case2 depth token rest _ hypothesis => exact hypothesis.trans (List.suffix_cons token rest)
  | case3 depth token rest => exact List.suffix_cons token rest
  | case4 depth token rest _ _ _ hypothesis =>
      exact hypothesis.trans (List.suffix_cons token rest)
  | case5 depth token rest _ _ _ hypothesis =>
      exact hypothesis.trans (List.suffix_cons token rest)
  | case6 depth token rest => exact List.suffix_refl (token :: rest)

/-- Type arguments take their opening bracket at least. -/
theorem readTypeArguments_length_lt
    (depth : Nat)
    {tokens : List Token}
    (starts : startsWith .less tokens = true) :
    (readTypeArguments depth tokens).2.length < tokens.length := by
  cases tokens with
  | nil => cases starts
  | cons token rest =>
      have less : token.punctuator? = some .less := by
        simpa [startsWith] using starts
      rw [readTypeArguments, if_pos less]
      exact Nat.lt_succ_of_le (readTypeArguments_suffix _ rest).length_le

/-- Tokens that begin with a punctuator are not empty. -/
theorem ne_nil_of_startsWith
    {punctuator : Punctuator}
    {tokens : List Token}
    (starts : startsWith punctuator tokens = true) :
    tokens ≠ [] := by
  rintro rfl
  cases starts

/-- A qualifier takes two tokens. -/
theorem length_lt_of_startsQualifier
    {tokens : List Token}
    (starts : startsQualifier tokens = true) :
    tokens.tail.tail.length < tokens.length := by
  cases tokens with
  | nil => simp [startsQualifier, startsWith] at starts
  | cons token rest =>
      simp only [List.tail_cons, List.length_tail, List.length_cons]
      omega

/--
Whether the name of a type is well formed behind its first identifier, and the
tokens behind it or where it is malformed.
-/
def readTypeTail
    (tokens : List Token) :
    Bool × List Token :=
  if _starts : startsWith .less tokens then
    match _reading : readTypeArguments 0 tokens with
    | (true, rest) => readTypeTail rest
    | (false, rest) => (false, rest)
  else if _qualified : startsQualifier tokens then
    readTypeTail tokens.tail.tail
  else
    (true, tokens)
termination_by tokens.length
decreasing_by
  · have shorter := readTypeArguments_length_lt 0 _starts
    rw [_reading] at shorter
    exact shorter
  · exact length_lt_of_startsQualifier _qualified

/-- The tokens behind array ranks. -/
def afterRanks
    (tokens : List Token) :
    List Token :=
  if _starts : startsWith .openBracket tokens then
    afterRanks (afterGroup 0 tokens)
  else
    tokens
termination_by tokens.length
decreasing_by exact afterGroup_length_lt (ne_nil_of_startsWith _starts)

/-- The type that the tokens begin with, and the tokens behind it. -/
def readDeclaredType
    (tokens : List Token) :
    DeclaredType × List Token :=
  if (firstWord? tokens).isNone then
    (.malformed, tokens)
  else
    match readTypeTail tokens.tail with
    | (false, rest) => (.malformed, rest)
    | (true, rest) =>
        let behind := skipOptional .question rest
        if startsWith .openBracket behind then
          (.array, afterRanks behind)
        else
          (.named (textUpTo tokens behind), behind)

/-- The rest of a type name leaves a suffix. -/
theorem readTypeTail_suffix
    (tokens : List Token) :
    (readTypeTail tokens).2 <:+ tokens := by
  fun_induction readTypeTail tokens with
  | case1 tokens _ rest reading hypothesis =>
      have suffix := readTypeArguments_suffix 0 tokens
      rw [reading] at suffix
      exact hypothesis.trans suffix
  | case2 tokens _ rest reading =>
      have suffix := readTypeArguments_suffix 0 tokens
      rw [reading] at suffix
      exact suffix
  | case3 tokens _ _ hypothesis =>
      exact hypothesis.trans
        ((List.tail_suffix tokens.tail).trans (List.tail_suffix tokens))
  | case4 tokens => exact List.suffix_refl tokens

/-- What stands behind array ranks is a suffix. -/
theorem afterRanks_suffix
    (tokens : List Token) :
    afterRanks tokens <:+ tokens := by
  fun_induction afterRanks tokens with
  | case1 tokens _ hypothesis => exact hypothesis.trans (afterGroup_suffix 0 tokens)
  | case2 tokens => exact List.suffix_refl tokens

/-- Reading a type leaves a suffix, well formed or not. -/
theorem readDeclaredType_suffix
    (tokens : List Token) :
    (readDeclaredType tokens).2 <:+ tokens := by
  unfold readDeclaredType
  split
  · exact List.suffix_refl tokens
  · have tailSuffix := (readTypeTail_suffix tokens.tail).trans (List.tail_suffix tokens)
    split
    · next rest shape =>
        rw [shape] at tailSuffix
        exact tailSuffix
    · next rest shape =>
        rw [shape] at tailSuffix
        have behind := (skipOptional_suffix .question rest).trans tailSuffix
        simp only
        split
        · exact (afterRanks_suffix _).trans behind
        · exact behind

end InitializerJson
