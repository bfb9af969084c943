import InitializerJson.Proofs.Expression.Groups

namespace InitializerJson

open Lexical

/-!
# Segments of tokens

A segment holds its brackets in matching pairs, without semicolons and less-than
signs anywhere and without commas outside its brackets.  What counts brackets
alone passes over a segment as a whole.  Inside brackets stand segments with
commas between them.
-/

/--
A token that may stand in a segment by itself; commas may only where they are
admitted.
-/
structure Lexical.Token.IsPlain
    (commas : Bool)
    (token : Token) :
    Prop where
  notOpener : token.isOpener = false
  notCloser : token.isCloser = false
  notSemicolon : token.punctuator? ≠ some .semicolon
  notLess : token.punctuator? ≠ some .less
  notComma : commas = false → token.punctuator? ≠ some .comma

instance (commas : Bool) (token : Token) :
    Decidable (token.IsPlain commas) :=
  decidable_of_iff
    (token.isOpener = false ∧ token.isCloser = false ∧
      token.punctuator? ≠ some .semicolon ∧ token.punctuator? ≠ some .less ∧
      (commas = false → token.punctuator? ≠ some .comma))
    ⟨fun ⟨notOpener, notCloser, notSemicolon, notLess, notComma⟩ =>
        ⟨notOpener, notCloser, notSemicolon, notLess, notComma⟩,
      fun ⟨notOpener, notCloser, notSemicolon, notLess, notComma⟩ =>
        ⟨notOpener, notCloser, notSemicolon, notLess, notComma⟩⟩

/--
Tokens whose brackets are nested by kind, with commas everywhere or only inside
the brackets, and without semicolons and less-than signs.
-/
inductive Balanced : (commas : Bool) → List Token → Prop where
  | nil
      {commas : Bool} :
      Balanced commas []
  | plain
      {commas : Bool}
      {token : Token}
      {rest : List Token}
      (isPlain : token.IsPlain commas)
      (behind : Balanced commas rest) :
      Balanced commas (token :: rest)
  | group
      {commas : Bool}
      {opening closing : Token}
      {inside rest : List Token}
      (paired : Encloses opening closing)
      (nested : Balanced true inside)
      (behind : Balanced commas rest) :
      Balanced commas (opening :: (inside ++ closing :: rest))

/-- A segment, which has commas inside its brackets only. -/
abbrev IsSegment
    (tokens : List Token) :
    Prop :=
  Balanced false tokens

/-- Segments one behind the other, with commas between them. -/
inductive Separated : (segments : List (List Token)) → List Token → Prop where
  | last
      {segment : List Token} :
      Separated [segment] segment
  | cons
      {segment others : List Token}
      {segments : List (List Token)}
      {comma : Token}
      (isComma : comma.punctuator? = some .comma)
      (behind : Separated segments others) :
      Separated (segment :: segments) (segment ++ comma :: others)

/-- A plain token is a delimiter only as a comma. -/
theorem Lexical.Token.IsPlain.isDelimiter
    {token : Token}
    (isPlain : token.IsPlain false) :
    token.isDelimiter = false := by
  rcases token with ⟨kind, gap, lexeme⟩
  cases kind with
  | punctuator mark =>
      cases mark with
      | comma => exact absurd rfl (isPlain.notComma rfl)
      | semicolon => exact absurd rfl isPlain.notSemicolon
      | closeParenthesis | closeBracket | closeBrace => cases isPlain.notCloser
      | _ => rfl
  | _ => rfl

/-! ## Passing over balanced tokens -/

section Passing

variable
  {commas : Bool}
  {tokens : List Token}

/-- The brackets of balanced tokens come in pairs. -/
theorem Balanced.isBracketed
    (balanced : Balanced commas tokens) :
    IsBracketed tokens := by
  induction balanced with
  | nil => exact .nil
  | plain isPlain _ hypothesis => exact .plain isPlain.notOpener isPlain.notCloser hypothesis
  | group paired _ _ nestedHypothesis hypothesis =>
      exact .group paired nestedHypothesis hypothesis

/-- A group is passed over up to its own closing bracket. -/
theorem Balanced.afterGroup_enclosed
    (balanced : Balanced commas tokens)
    {opening closing : Token}
    (paired : Encloses opening closing)
    (rest : List Token) :
    afterGroup 0 (opening :: (tokens ++ closing :: rest)) = rest := by
  rw [afterGroup, if_pos paired.isOpener, balanced.isBracketed.afterGroup_append Nat.one_pos,
    afterGroup, isOpener_of_isCloser paired.isCloser, if_neg Bool.false_ne_true,
    if_pos paired.isCloser, if_pos (by omega)]

/-- No delimiter of a segment stands outside its brackets. -/
theorem fromDelimiter_segment_eq_nil
    (segment : IsSegment tokens) :
    fromDelimiter 0 tokens = [] := by
  unfold IsSegment at segment
  generalize admitted : false = commas at segment
  induction segment with
  | nil => rfl
  | plain isPlain _ hypothesis =>
      subst admitted
      simp only [fromDelimiter, isPlain.notOpener, isPlain.isDelimiter, Bool.false_eq_true,
        if_false]
      exact hypothesis rfl
  | group paired nested _ _ hypothesis =>
      rw [nested.isBracketed.fromDelimiter_group paired]
      exact hypothesis admitted

/-- The next delimiter stands behind the segment. -/
theorem fromDelimiter_segment
    (segment : IsSegment tokens)
    {rest : List Token}
    (ends : atExpressionEnd rest = true) :
    fromDelimiter 0 (tokens ++ rest) = rest := by
  rw [segment.isBracketed.fromDelimiter_append, if_pos (fromDelimiter_segment_eq_nil segment),
    fromDelimiter_of_atExpressionEnd ends]

end Passing

/-! ## Taking balanced tokens apart -/

section Parting

variable
  {commas : Bool}
  {token : Token}
  {tokens : List Token}

/-- Behind a token that opens no group, balanced tokens go on. -/
theorem Balanced.tail
    (balanced : Balanced commas tokens)
    (notOpener : atOpener tokens = false) :
    Balanced commas tokens.tail := by
  cases balanced with
  | nil => exact .nil
  | plain _ behind => exact behind
  | group paired _ _ =>
      rw [atOpener, paired.isOpener] at notOpener
      cases notOpener

/-- Behind a mark that is no bracket, balanced tokens go on. -/
theorem Balanced.tail_of_startsWith
    (balanced : Balanced commas tokens)
    {mark : Punctuator}
    (starts : startsWith mark tokens = true)
    (notOpener : mark.isOpener = false) :
    Balanced commas tokens.tail := by
  apply balanced.tail
  cases tokens with
  | nil => rfl
  | cons token rest =>
      rw [startsWith, beq_iff_eq] at starts
      rw [atOpener, Token.isOpener, starts]
      exact notOpener

/-- Behind a word, balanced tokens go on. -/
theorem Balanced.tail_of_word
    (balanced : Balanced commas tokens)
    (isWord : (firstWord? tokens).isSome) :
    Balanced commas tokens.tail := by
  apply balanced.tail
  cases tokens with
  | nil => rfl
  | cons token rest =>
      rcases token with ⟨kind, gap, lexeme⟩
      cases kind with
      | punctuator mark => cases isWord
      | _ => rfl

/-- An opening bracket begins a group, behind which balanced tokens go on. -/
theorem Balanced.exists_group
    (balanced : Balanced commas tokens)
    {opener closer : Punctuator}
    (starts : startsWith opener tokens = true)
    (matching : opener.closer? = some closer) :
    ∃ opening inside closing rest,
      tokens = opening :: (inside ++ closing :: rest) ∧
        closing.punctuator? = some closer ∧ Balanced true inside ∧ Balanced commas rest := by
  cases balanced with
  | nil => cases starts
  | @plain _ token rest isPlain _ =>
      rw [startsWith, beq_iff_eq] at starts
      have isOpener : token.isOpener = true := by
        rw [Token.isOpener, starts]
        cases opener <;> cases matching <;> rfl
      rw [isPlain.notOpener] at isOpener
      cases isOpener
  | @group _ opening closing inside rest paired nested behind =>
      obtain ⟨other, closes, opens, matchingOther, isClosing⟩ := paired
      rw [startsWith, opens, beq_iff_eq, Option.some.injEq] at starts
      subst starts
      rw [matching, Option.some.injEq] at matchingOther
      subst matchingOther
      exact ⟨opening, inside, closing, rest, rfl, isClosing, nested, behind⟩

/-- The group that balanced tokens begin with does not depend on what follows. -/
theorem Balanced.afterGroup_apart
    (balanced : Balanced commas tokens)
    (opens : atOpener tokens = true) :
    Balanced commas (afterGroup 0 tokens) ∧
      ∀ rest, afterGroup 0 (tokens ++ rest) = afterGroup 0 tokens ++ rest := by
  cases balanced with
  | nil => cases opens
  | plain isPlain _ =>
      rw [atOpener, isPlain.notOpener] at opens
      cases opens
  | @group _ opening closing inside others paired nested behind =>
      refine ⟨?_, fun rest => ?_⟩
      · rw [nested.afterGroup_enclosed paired]
        exact behind
      · rw [nested.afterGroup_enclosed paired, List.cons_append, List.append_assoc,
          List.cons_append, nested.afterGroup_enclosed paired]

/-- Balanced tokens do not begin with a closing bracket. -/
theorem Balanced.notCloser
    (balanced : Balanced commas (token :: tokens)) :
    token.isCloser = false := by
  cases balanced with
  | plain isPlain _ => exact isPlain.notCloser
  | group paired _ _ =>
      cases closes : token.isCloser with
      | false => rfl
      | true =>
          have opens := isOpener_of_isCloser closes
          rw [paired.isOpener] at opens
          cases opens

/-- Balanced tokens do not begin with a less-than sign. -/
theorem Balanced.startsWith_less
    (balanced : Balanced commas tokens) :
    startsWith .less tokens = false := by
  cases balanced with
  | nil => rfl
  | plain isPlain _ => exact beq_eq_false_iff_ne.mpr isPlain.notLess
  | group paired _ _ =>
      obtain ⟨opener, closer, opens, matching, _⟩ := paired
      rw [startsWith, opens]
      cases opener <;> cases matching <;> rfl

/-- A segment that has a token does not begin with a delimiter. -/
theorem IsSegment.notDelimiter
    (segment : IsSegment (token :: tokens)) :
    token.isDelimiter = false := by
  cases segment with
  | plain isPlain _ => exact isPlain.isDelimiter
  | group paired _ _ => exact isDelimiter_of_isOpener paired.isOpener

/-- Tokens in front of the first segment make it longer. -/
theorem Separated.prepend
    {segment : List Token}
    {segments : List (List Token)}
    (separated : Separated (segment :: segments) tokens)
    (front : List Token) :
    Separated ((front ++ segment) :: segments) (front ++ tokens) := by
  cases separated with
  | last => exact .last
  | cons isComma behind =>
      rw [← List.append_assoc]
      exact .cons isComma behind

/-- Balanced tokens with commas are segments with commas between them. -/
theorem Balanced.exists_separated
    (balanced : Balanced true tokens) :
    ∃ first others, Separated (first :: others) tokens ∧
      ∀ segment ∈ first :: others, IsSegment segment := by
  generalize admitted : true = commas at balanced
  induction balanced with
  | nil => exact ⟨[], [], .last, List.forall_mem_singleton.mpr .nil⟩
  | @plain _ token rest isPlain _ hypothesis =>
      obtain ⟨first, others, separated, areSegments⟩ := hypothesis admitted
      -- A comma leaves an empty segment in front of it; any other token joins the first segment.
      by_cases isComma : token.punctuator? = some .comma
      · exact ⟨[], first :: others, .cons isComma separated,
          List.forall_mem_cons.mpr ⟨.nil, areSegments⟩⟩
      · obtain ⟨isSegment, others_areSegments⟩ := List.forall_mem_cons.mp areSegments
        have alone : token.IsPlain false := { isPlain with notComma := fun _ => isComma }
        exact ⟨token :: first, others, separated.prepend [token],
          List.forall_mem_cons.mpr ⟨.plain alone isSegment, others_areSegments⟩⟩
  | @group _ opening closing inside rest paired nested _ _ hypothesis =>
      obtain ⟨first, others, separated, areSegments⟩ := hypothesis admitted
      obtain ⟨isSegment, others_areSegments⟩ := List.forall_mem_cons.mp areSegments
      have longer := separated.prepend (opening :: (inside ++ [closing]))
      simp only [List.cons_append, List.append_assoc, List.nil_append] at longer
      exact ⟨opening :: (inside ++ closing :: first), others, longer,
        List.forall_mem_cons.mpr ⟨.group paired nested isSegment, others_areSegments⟩⟩

end Parting

end InitializerJson
