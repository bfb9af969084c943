import InitializerJson.Expression.Cursor

namespace InitializerJson

open Lexical

/-!
# Groups and the next delimiter

Groups are passed over on the way to the next delimiter, whatever the kinds of their
brackets.  Tokens whose brackets come in pairs open no group and close none.
-/

/-- The bracket that closes what an opening one opens. -/
def Lexical.Punctuator.closer? : Punctuator → Option Punctuator
  | openParenthesis => some closeParenthesis
  | openBracket => some closeBracket
  | openBrace => some closeBrace
  | _ => none

/-- Two tokens are a pair of brackets of one kind. -/
def Encloses
    (opening closing : Token) :
    Prop :=
  ∃ opener closer,
    opening.punctuator? = some opener ∧ opener.closer? = some closer ∧
      closing.punctuator? = some closer

/--
Tokens whose brackets come in matching pairs, whatever else stands among them.
-/
inductive IsBracketed : List Token → Prop where
  | nil :
      IsBracketed []
  | plain
      {token : Token}
      {rest : List Token}
      (notOpener : token.isOpener = false)
      (notCloser : token.isCloser = false)
      (behind : IsBracketed rest) :
      IsBracketed (token :: rest)
  | group
      {opening closing : Token}
      {inside rest : List Token}
      (paired : Encloses opening closing)
      (nested : IsBracketed inside)
      (behind : IsBracketed rest) :
      IsBracketed (opening :: (inside ++ closing :: rest))

/-! ## Brackets -/

section Brackets

variable
  {opening closing : Token}

/-- The first bracket of a pair opens a group. -/
theorem Encloses.isOpener
    (paired : Encloses opening closing) :
    opening.isOpener = true := by
  obtain ⟨opener, closer, opens, matching, _⟩ := paired
  rw [Token.isOpener, opens]
  cases opener <;> cases matching <;> rfl

/-- The second bracket of a pair closes a group. -/
theorem Encloses.isCloser
    (paired : Encloses opening closing) :
    closing.isCloser = true := by
  obtain ⟨opener, closer, _, matching, closes⟩ := paired
  rw [Token.isCloser, closes]
  cases opener <;> cases matching <;> rfl

/-- No token opens and closes a group. -/
theorem isOpener_of_isCloser
    {token : Token}
    (closes : token.isCloser = true) :
    token.isOpener = false := by
  rcases token with ⟨kind, gap, lexeme⟩
  cases kind with
  | punctuator mark => cases mark <;> first | rfl | cases closes
  | _ => rfl

/-- What opens a group is no delimiter. -/
theorem isDelimiter_of_isOpener
    {token : Token}
    (opens : token.isOpener = true) :
    token.isDelimiter = false := by
  rcases token with ⟨kind, gap, lexeme⟩
  cases kind with
  | punctuator mark => cases mark <;> first | rfl | cases opens
  | _ => rfl

/-- What closes a group is a delimiter. -/
theorem isDelimiter_of_isCloser
    {token : Token}
    (closes : token.isCloser = true) :
    token.isDelimiter = true := by
  rcases token with ⟨kind, gap, lexeme⟩
  cases kind with
  | punctuator mark => cases mark <;> first | rfl | cases closes
  | _ => cases closes

/-- A bracket with a closing one opens a group. -/
theorem isOpener_of_closer?
    {token : Token}
    {opener closer : Punctuator}
    (opens : token.punctuator? = some opener)
    (matching : opener.closer? = some closer) :
    token.isOpener = true := by
  rw [Token.isOpener, opens]
  cases opener <;> cases matching <;> rfl

end Brackets

/-! ## The next delimiter -/

section Groups

variable
  {tokens : List Token}

/-- A group that is open is passed over on the way to the next delimiter. -/
theorem fromDelimiter_afterGroup_open
    (depth : Nat)
    (tokens : List Token) :
    fromDelimiter 0 (afterGroup (depth + 1) tokens) = fromDelimiter (depth + 1) tokens := by
  induction tokens generalizing depth with
  | nil => rfl
  | cons token rest hypothesis =>
      rw [afterGroup, fromDelimiter]
      by_cases opens : token.isOpener = true
      · rw [if_pos opens, if_pos opens]
        exact hypothesis (depth + 1)
      rw [if_neg opens, if_neg opens]
      by_cases closes : token.isCloser = true
      · rw [if_pos closes, if_pos closes]
        cases depth with
        | zero => rw [if_pos (Nat.le_refl 1)]
        | succ outer =>
            rw [if_neg (by omega), Nat.add_sub_cancel]
            exact hypothesis outer
      · rw [if_neg closes, if_neg closes]
        exact hypothesis depth

/-- A group is passed over on the way to the next delimiter. -/
theorem fromDelimiter_afterGroup
    (opens : atOpener tokens = true) :
    fromDelimiter 0 (afterGroup 0 tokens) = fromDelimiter 0 tokens := by
  cases tokens with
  | nil => cases opens
  | cons token rest =>
      have isOpener : token.isOpener = true := opens
      rw [afterGroup, if_pos isOpener, fromDelimiter_afterGroup_open, fromDelimiter,
        isDelimiter_of_isOpener isOpener, if_neg Bool.false_ne_true, if_pos isOpener]

/-- A group closes behind the next delimiter inside it, as it closes behind its front. -/
theorem afterGroup_fromDelimiter
    (depth : Nat)
    (tokens : List Token) :
    afterGroup 1 (fromDelimiter depth tokens) = afterGroup (depth + 1) tokens := by
  induction tokens generalizing depth with
  | nil => cases depth <;> rfl
  | cons token rest hypothesis =>
      cases depth with
      | zero =>
          rw [fromDelimiter]
          by_cases delimits : token.isDelimiter = true
          · rw [if_pos delimits]
          have notCloser : token.isCloser = false := by
            cases closes : token.isCloser with
            | false => rfl
            | true => exact absurd (isDelimiter_of_isCloser closes) delimits
          rw [if_neg delimits, afterGroup, notCloser]
          by_cases opens : token.isOpener = true
          · rw [if_pos opens, if_pos opens]
            exact hypothesis 1
          · rw [if_neg opens, if_neg opens, if_neg Bool.false_ne_true]
            exact hypothesis 0
      | succ depth =>
          rw [fromDelimiter, afterGroup]
          by_cases opens : token.isOpener = true
          · rw [if_pos opens, if_pos opens]
            exact hypothesis (depth + 2)
          rw [if_neg opens, if_neg opens]
          by_cases closes : token.isCloser = true
          · rw [if_pos closes, if_pos closes, if_neg (by omega), Nat.add_sub_cancel]
            exact hypothesis depth
          · rw [if_neg closes, if_neg closes]
            exact hypothesis (depth + 1)

/-- A token that is neither a delimiter nor a bracket is passed over. -/
theorem fromDelimiter_tail
    (goesOn : atExpressionEnd tokens = false)
    (notOpener : atOpener tokens = false) :
    fromDelimiter 0 tokens.tail = fromDelimiter 0 tokens := by
  cases tokens with
  | nil => cases goesOn
  | cons token rest =>
      have notDelimiter : token.isDelimiter = false := goesOn
      have noGroup : token.isOpener = false := notOpener
      rw [List.tail_cons, fromDelimiter, notDelimiter, noGroup, if_neg Bool.false_ne_true,
        if_neg Bool.false_ne_true]

/-- Where an expression ends, the next delimiter stands. -/
theorem fromDelimiter_of_atExpressionEnd
    (ends : atExpressionEnd tokens = true) :
    fromDelimiter 0 tokens = tokens := by
  cases tokens with
  | nil => rfl
  | cons token rest =>
      have delimits : token.isDelimiter = true := ends
      rw [fromDelimiter, if_pos delimits]

/-- A mark that is neither a delimiter nor a bracket is passed over. -/
theorem fromDelimiter_tail_of_startsWith
    {mark : Punctuator}
    {tokens : List Token}
    (starts : startsWith mark tokens = true)
    (notDelimiter : mark.isDelimiter = false)
    (notOpener : mark.isOpener = false) :
    fromDelimiter 0 tokens.tail = fromDelimiter 0 tokens := by
  cases tokens with
  | nil => cases starts
  | cons token rest =>
      have isMark : token.punctuator? = some mark := beq_iff_eq.mp starts
      apply fromDelimiter_tail
      · simpa [atExpressionEnd, Token.isDelimiter, isMark] using notDelimiter
      · simpa [atOpener, Token.isOpener, isMark] using notOpener

/-- A word is passed over. -/
theorem fromDelimiter_tail_of_word
    {tokens : List Token}
    (isWord : (firstWord? tokens).isSome) :
    fromDelimiter 0 tokens.tail = fromDelimiter 0 tokens := by
  cases tokens with
  | nil => cases isWord
  | cons token rest =>
      rcases token with ⟨kind, gap, lexeme⟩
      cases kind with
      | punctuator mark => cases isWord
      | _ => rfl

/-- An opening bracket opens its group. -/
theorem afterGroup_of_startsWith
    {opener : Punctuator}
    {tokens : List Token}
    (starts : startsWith opener tokens = true)
    (opens : opener.isOpener = true) :
    afterGroup 0 tokens = afterGroup 1 tokens.tail := by
  cases tokens with
  | nil => cases starts
  | cons token rest =>
      have isMark : token.punctuator? = some opener := beq_iff_eq.mp starts
      have isOpener : token.isOpener = true := by
        simpa [Token.isOpener, isMark] using opens
      rw [afterGroup, if_pos isOpener, List.tail_cons]

/-- A group that begins with a given bracket is passed over. -/
theorem fromDelimiter_of_group
    {opener : Punctuator}
    {tokens : List Token}
    (starts : startsWith opener tokens = true)
    (opens : opener.isOpener = true) :
    fromDelimiter 0 (afterGroup 0 tokens) = fromDelimiter 0 tokens := by
  rw [afterGroup_of_startsWith starts opens, fromDelimiter_afterGroup_open]
  cases tokens with
  | nil => cases starts
  | cons token rest =>
      have isMark : token.punctuator? = some opener := beq_iff_eq.mp starts
      have isOpener : token.isOpener = true := by
        simpa [Token.isOpener, isMark] using opens
      rw [List.tail_cons, fromDelimiter, isDelimiter_of_isOpener isOpener,
        if_neg Bool.false_ne_true, if_pos isOpener]

/-- A group ends behind its closing bracket. -/
theorem afterGroup_tail
    {closer : Punctuator}
    {tokens : List Token}
    (starts : startsWith closer tokens = true)
    (isCloser : closer.isCloser = true) :
    afterGroup 1 tokens = tokens.tail := by
  cases tokens with
  | nil => cases starts
  | cons token rest =>
      have isMark : token.punctuator? = some closer := beq_iff_eq.mp starts
      have closes : token.isCloser = true := by
        simpa [Token.isCloser, isMark] using isCloser
      simp [afterGroup, isOpener_of_isCloser closes, closes]

end Groups

/-! ## Brackets in pairs -/

namespace IsBracketed

variable
  {tokens : List Token}

/-- Tokens with brackets in pairs may follow each other. -/
theorem append
    {others : List Token}
    (first : IsBracketed tokens)
    (second : IsBracketed others) :
    IsBracketed (tokens ++ others) := by
  induction first with
  | nil => exact second
  | plain notOpener notCloser _ hypothesis => exact .plain notOpener notCloser hypothesis
  | group paired nested _ _ hypothesis =>
      rw [List.cons_append, List.append_assoc, List.cons_append]
      exact .group paired nested hypothesis

/-- A token that is no bracket stands by itself. -/
theorem single
    {token : Token}
    (notOpener : token.isOpener = false)
    (notCloser : token.isCloser = false) :
    IsBracketed [token] :=
  .plain notOpener notCloser .nil

/-- A group stands by itself. -/
theorem enclosed
    {opening closing : Token}
    (paired : Encloses opening closing)
    (nested : IsBracketed tokens) :
    IsBracketed (opening :: (tokens ++ [closing])) :=
  .group paired nested .nil

/-- Brackets in pairs do not close a group that is open before them. -/
theorem afterGroup_append
    (bracketed : IsBracketed tokens)
    {depth : Nat}
    (opened : 0 < depth)
    (rest : List Token) :
    afterGroup depth (tokens ++ rest) = afterGroup depth rest := by
  induction bracketed generalizing depth rest with
  | nil => rfl
  | plain notOpener notCloser _ hypothesis =>
      simp only [List.cons_append, afterGroup, notOpener, notCloser, Bool.false_eq_true, if_false]
      exact hypothesis opened rest
  | @group opening closing inside others paired _ _ nestedHypothesis hypothesis =>
      have shape :
          opening :: (inside ++ closing :: others) ++ rest =
            opening :: (inside ++ closing :: (others ++ rest)) := by
        simp
      -- The closing bracket finds the depth that its opening bracket raised, never the last one.
      rw [shape, afterGroup, if_pos paired.isOpener, nestedHypothesis (Nat.succ_pos depth),
        afterGroup, isOpener_of_isCloser paired.isCloser, if_neg Bool.false_ne_true,
        if_pos paired.isCloser, if_neg (by omega), Nat.succ_sub_one]
      exact hypothesis opened rest

/-- Inside a group, brackets in pairs hide every delimiter. -/
theorem fromDelimiter_inside
    (bracketed : IsBracketed tokens)
    (depth : Nat)
    (rest : List Token) :
    fromDelimiter (depth + 1) (tokens ++ rest) = fromDelimiter (depth + 1) rest := by
  induction bracketed generalizing depth rest with
  | nil => rfl
  | plain notOpener notCloser _ hypothesis =>
      simp only [List.cons_append, fromDelimiter, notOpener, notCloser, Bool.false_eq_true,
        if_false]
      exact hypothesis depth rest
  | @group opening closing inside others paired _ _ nestedHypothesis hypothesis =>
      have shape :
          opening :: (inside ++ closing :: others) ++ rest =
            opening :: (inside ++ closing :: (others ++ rest)) := by
        simp
      rw [shape, fromDelimiter, if_pos paired.isOpener, nestedHypothesis (depth + 1),
        fromDelimiter, isOpener_of_isCloser paired.isCloser, if_neg Bool.false_ne_true,
        if_pos paired.isCloser]
      exact hypothesis depth rest

/-- A group of brackets in pairs is passed over on the way to the next delimiter. -/
theorem fromDelimiter_group
    (bracketed : IsBracketed tokens)
    {opening closing : Token}
    (paired : Encloses opening closing)
    (rest : List Token) :
    fromDelimiter 0 (opening :: (tokens ++ closing :: rest)) = fromDelimiter 0 rest := by
  rw [fromDelimiter, isDelimiter_of_isOpener paired.isOpener, if_neg Bool.false_ne_true,
    if_pos paired.isOpener, bracketed.fromDelimiter_inside, fromDelimiter,
    isOpener_of_isCloser paired.isCloser, if_neg Bool.false_ne_true, if_pos paired.isCloser]

/--
The next delimiter stands among tokens with brackets in pairs, or it is the next one
behind them.
-/
theorem fromDelimiter_append
    (bracketed : IsBracketed tokens)
    (rest : List Token) :
    fromDelimiter 0 (tokens ++ rest) =
      if fromDelimiter 0 tokens = [] then
        fromDelimiter 0 rest
      else
        fromDelimiter 0 tokens ++ rest := by
  induction bracketed with
  | nil => rfl
  | @plain token others notOpener _ _ hypothesis =>
      rw [List.cons_append, fromDelimiter, fromDelimiter, notOpener]
      by_cases delimits : token.isDelimiter = true
      · simp [delimits]
      · simpa [delimits] using hypothesis
  | @group opening closing inside others paired nested _ _ hypothesis =>
      rw [List.cons_append, List.append_assoc, List.cons_append,
        nested.fromDelimiter_group paired, nested.fromDelimiter_group paired]
      exact hypothesis

end IsBracketed

section Tokens

variable
  {token : Token}

/-- A word is no bracket. -/
theorem isBracketed_word
    (isWord : token.word?.isSome) :
    IsBracketed [token] := by
  rcases token with ⟨kind, gap, lexeme⟩
  cases kind with
  | identifier word => exact .single rfl rfl
  | _ => cases isWord

/-- A mark that is no bracket stands by itself. -/
theorem isBracketed_mark
    {mark : Punctuator}
    (isMark : token.punctuator? = some mark)
    (notOpener : mark.isOpener = false)
    (notCloser : mark.isCloser = false) :
    IsBracketed [token] := by
  apply IsBracketed.single
  · simpa [Token.isOpener, isMark] using notOpener
  · simpa [Token.isCloser, isMark] using notCloser

end Tokens

end InitializerJson
