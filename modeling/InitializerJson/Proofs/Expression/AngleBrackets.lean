import InitializerJson.Expression.DeclaredType

namespace InitializerJson

open Lexical

/-!
# Angle brackets are counted above zero

Type arguments are closed as soon as their count of open angle brackets comes back
to zero.  A count that is lowered once more would have no value.  The readers here
take the count that way: they give nothing where it would go below zero.  On types
they always give what the readers give that do not care.
-/

/-- Reading type arguments with a count that cannot be lowered from zero. -/
def countTypeArguments? : Nat → List Token → Option (Bool × List Token)
  | _, [] => some (false, [])
  | depth, token :: rest =>
      if token.punctuator? = some .less then
        countTypeArguments? (depth + 1) rest
      else if token.punctuator? = some .greater then
        if depth = 0 then
          none
        else if depth - 1 = 0 then
          some (true, rest)
        else
          countTypeArguments? (depth - 1) rest
      else if token.isTypePart then
        countTypeArguments? depth rest
      else
        some (false, token :: rest)

/-- What is read with a count is what is read without care for it. -/
theorem readTypeArguments_of_count
    {depth : Nat}
    {tokens : List Token}
    {read : Bool × List Token}
    (counted : countTypeArguments? depth tokens = some read) :
    readTypeArguments depth tokens = read := by
  fun_induction countTypeArguments? depth tokens with
  | case1 depth => exact Option.some.inj counted
  | case2 depth token rest less hypothesis =>
      rw [readTypeArguments, if_pos less]
      exact hypothesis counted
  | case3 => cases counted
  | case4 depth token rest notLess greater notZero closed =>
      rw [readTypeArguments, if_neg notLess, if_pos greater, if_pos (by omega)]
      exact Option.some.inj counted
  | case5 depth token rest notLess greater notZero goesOn hypothesis =>
      rw [readTypeArguments, if_neg notLess, if_pos greater, if_neg (by omega)]
      exact hypothesis counted
  | case6 depth token rest notLess notGreater part hypothesis =>
      rw [readTypeArguments, if_neg notLess, if_neg notGreater, if_pos part]
      exact hypothesis counted
  | case7 depth token rest notLess notGreater other =>
      rw [readTypeArguments, if_neg notLess, if_neg notGreater, if_neg other]
      exact Option.some.inj counted

/-- While a bracket is open the count is never lowered from zero. -/
theorem countTypeArguments?_of_open
    (depth : Nat)
    (tokens : List Token) :
    countTypeArguments? (depth + 1) tokens = some (readTypeArguments (depth + 1) tokens) := by
  induction tokens generalizing depth with
  | nil => rfl
  | cons token rest hypothesis =>
      rw [countTypeArguments?, readTypeArguments]
      split
      · exact hypothesis (depth + 1)
      · split
        · rw [if_neg (Nat.succ_ne_zero depth), Nat.add_sub_cancel]
          cases depth with
          | zero => rfl
          | succ lower =>
              rw [if_neg (by omega), if_neg (by omega)]
              exact hypothesis lower
        · split
          · exact hypothesis depth
          · rfl

/-- Type arguments begin with a bracket, so that their count is never lowered from zero. -/
theorem countTypeArguments?_of_startsWith
    {tokens : List Token}
    (starts : startsWith .less tokens = true) :
    countTypeArguments? 0 tokens = some (readTypeArguments 0 tokens) := by
  cases tokens with
  | nil => cases starts
  | cons token rest =>
      have less : token.punctuator? = some .less := by
        simpa [startsWith] using starts
      rw [countTypeArguments?, readTypeArguments, if_pos less, if_pos less]
      exact countTypeArguments?_of_open 0 rest

/-- Reading the name of a type behind its first identifier with a count of brackets. -/
def countTypeTail?
    (tokens : List Token) :
    Option (Bool × List Token) :=
  if _starts : startsWith .less tokens then
    match _reading : countTypeArguments? 0 tokens with
    | none => none
    | some (true, rest) => countTypeTail? rest
    | some (false, rest) => some (false, rest)
  else if _qualified : startsQualifier tokens then
    countTypeTail? tokens.tail.tail
  else
    some (true, tokens)
termination_by tokens.length
decreasing_by
  · have shorter := readTypeArguments_length_lt 0 _starts
    rw [readTypeArguments_of_count _reading] at shorter
    exact shorter
  · exact length_lt_of_startsQualifier _qualified

/-- The name of a type is read without lowering a count from zero. -/
theorem countTypeTail?_eq_some
    (tokens : List Token) :
    countTypeTail? tokens = some (readTypeTail tokens) := by
  fun_induction readTypeTail tokens with
  | case1 tokens starts rest reading hypothesis =>
      have counted := countTypeArguments?_of_startsWith starts
      rw [reading] at counted
      rw [countTypeTail?, dif_pos starts]
      split
      · next none => simp [counted] at none
      · next other shape =>
          rw [counted] at shape
          cases shape
          exact hypothesis
      · next other shape =>
          rw [counted] at shape
          cases shape
  | case2 tokens starts rest reading =>
      have counted := countTypeArguments?_of_startsWith starts
      rw [reading] at counted
      rw [countTypeTail?, dif_pos starts]
      split
      · next none => simp [counted] at none
      · next other shape =>
          rw [counted] at shape
          cases shape
      · next other shape =>
          rw [counted] at shape
          cases shape
          rfl
  | case3 tokens noArguments qualified hypothesis =>
      rw [countTypeTail?, dif_neg noArguments, dif_pos qualified]
      exact hypothesis
  | case4 tokens noArguments noQualifier =>
      rw [countTypeTail?, dif_neg noArguments, dif_neg noQualifier]

/-- Reading a type with a count of its angle brackets. -/
def countDeclaredType?
    (tokens : List Token) :
    Option (DeclaredType × List Token) :=
  if (firstWord? tokens).isNone then
    some (.malformed, tokens)
  else
    (countTypeTail? tokens.tail).map fun
      | (false, rest) => (.malformed, rest)
      | (true, rest) =>
          let behind := skipOptional .question rest
          if startsWith .openBracket behind then
            (.array, afterRanks behind)
          else
            (.named (textUpTo tokens behind), behind)

/-- Every type is read without lowering its count of angle brackets from zero. -/
theorem countDeclaredType?_eq_some
    (tokens : List Token) :
    countDeclaredType? tokens = some (readDeclaredType tokens) := by
  unfold countDeclaredType? readDeclaredType
  split
  · rfl
  · exact congrArg (Option.map _) (countTypeTail?_eq_some tokens.tail)

end InitializerJson
