import InitializerJson.Proofs.Expression.EntryIsolation

namespace InitializerJson

open Lexical

/-!
# Reading stops before what follows

A reading that leaves a delimiter unread does not depend on what stands behind its
tokens.  Groups and type arguments may reach over delimiters, but none of them has
then reached the end of the tokens, and what looks ahead from a token that is no
delimiter still sees a token behind it.
-/

/-- Some delimiter stands among the tokens. -/
def HoldsDelimiter
    (tokens : List Token) :
    Prop :=
  ∃ token ∈ tokens, token.isDelimiter = true

/-- Tokens that hold a delimiter hold it with more in front. -/
theorem HoldsDelimiter.of_suffix
    {rest tokens : List Token}
    (holds : HoldsDelimiter rest)
    (suffix : rest <:+ tokens) :
    HoldsDelimiter tokens := by
  obtain ⟨token, member, delimits⟩ := holds
  exact ⟨token, suffix.subset member, delimits⟩

/-- Tokens that hold a delimiter are not empty. -/
theorem HoldsDelimiter.ne_nil
    {tokens : List Token}
    (holds : HoldsDelimiter tokens) :
    tokens ≠ [] := by
  rintro rfl
  obtain ⟨token, member, _⟩ := holds
  cases member

/-- A delimiter stands behind a first token that is none. -/
theorem HoldsDelimiter.behind
    {token : Token}
    {rest : List Token}
    (holds : HoldsDelimiter (token :: rest))
    (other : token.isDelimiter = false) :
    HoldsDelimiter rest := by
  obtain ⟨found, member, delimits⟩ := holds
  rcases List.mem_cons.mp member with rfl | inRest
  · rw [other] at delimits
    cases delimits
  · exact ⟨found, inRest, delimits⟩

/-! ## What is seen from a token -/

section Front

variable
  {tokens : List Token}
  (holds : HoldsDelimiter tokens)
  (more : List Token)

include holds

/-- The same mark comes first with more behind. -/
theorem startsWith_more
    (mark : Punctuator) :
    startsWith mark (tokens ++ more) = startsWith mark tokens := by
  cases tokens with
  | nil => exact absurd rfl holds.ne_nil
  | cons token rest => rfl

/-- The same word comes first with more behind. -/
theorem firstWord?_more :
    firstWord? (tokens ++ more) = firstWord? tokens := by
  cases tokens with
  | nil => exact absurd rfl holds.ne_nil
  | cons token rest => rfl

/-- An expression ends here or goes on, with more behind as before. -/
theorem atExpressionEnd_more :
    atExpressionEnd (tokens ++ more) = atExpressionEnd tokens := by
  cases tokens with
  | nil => exact absurd rfl holds.ne_nil
  | cons token rest => rfl

/-- A group opens here with more behind as before. -/
theorem atOpener_more :
    atOpener (tokens ++ more) = atOpener tokens := by
  cases tokens with
  | nil => exact absurd rfl holds.ne_nil
  | cons token rest => rfl

/-- What stands behind the first token has more behind it. -/
theorem tail_more :
    (tokens ++ more).tail = tokens.tail ++ more :=
  List.tail_append_of_ne_nil holds.ne_nil

end Front

/-- Behind a word and another token there is more, where a delimiter stands. -/
theorem HoldsDelimiter.behind_word
    {tokens : List Token}
    (holds : HoldsDelimiter tokens)
    (isWord : (firstWord? tokens).isSome) :
    HoldsDelimiter tokens.tail := by
  cases tokens with
  | nil => cases isWord
  | cons token rest =>
      rcases token with ⟨kind, gap, lexeme⟩
      cases kind with
      | identifier word => exact holds.behind rfl
      | _ => cases isWord

/-- Behind a mark that is no delimiter there is more, where a delimiter stands. -/
theorem HoldsDelimiter.behind_mark
    {tokens : List Token}
    {mark : Punctuator}
    (holds : HoldsDelimiter tokens)
    (starts : startsWith mark tokens = true)
    (notDelimiter : mark.isDelimiter = false) :
    HoldsDelimiter tokens.tail := by
  cases tokens with
  | nil => cases starts
  | cons token rest =>
      rw [startsWith, beq_iff_eq] at starts
      refine holds.behind ?_
      rw [Token.isDelimiter, starts]
      exact notDelimiter

section LookingAhead

variable
  {tokens : List Token}
  (holds : HoldsDelimiter tokens)
  (more : List Token)

include holds

/-- A mark and a word come first with more behind as before. -/
theorem markAndWord_more
    {mark : Punctuator}
    (notDelimiter : mark.isDelimiter = false) :
    (startsWith mark (tokens ++ more) && (firstWord? (tokens ++ more).tail).isSome) =
      (startsWith mark tokens && (firstWord? tokens.tail).isSome) := by
  rw [startsWith_more holds]
  cases starts : startsWith mark tokens with
  | false => rfl
  | true => rw [tail_more holds, firstWord?_more (holds.behind_mark starts notDelimiter)]

/-- A qualifier comes first with more behind as before. -/
theorem startsQualifier_more :
    startsQualifier (tokens ++ more) = startsQualifier tokens := by
  simp only [startsQualifier, Bool.and_or_distrib_right]
  rw [markAndWord_more holds more rfl, markAndWord_more holds more rfl]

/-- A member comes first with more behind as before. -/
theorem startsMember_more :
    startsMember (tokens ++ more) = startsMember tokens := by
  simp only [startsMember, Bool.and_or_distrib_right]
  rw [markAndWord_more holds more rfl, markAndWord_more holds more rfl,
    markAndWord_more holds more rfl]

/-- A label is passed over with more behind as before. -/
theorem skipLabel_more :
    skipLabel (tokens ++ more) = skipLabel tokens ++ more := by
  unfold skipLabel
  rw [firstWord?_more holds, tail_more holds]
  cases isWord : (firstWord? tokens).isSome with
  | false => rfl
  | true =>
      have behind := holds.behind_word isWord
      rw [startsWith_more behind, Bool.true_and]
      split
      · exact tail_more behind more
      · rfl

/-- A mark is passed over with more behind as before. -/
theorem skipOptional_more
    (mark : Punctuator) :
    skipOptional mark (tokens ++ more) = skipOptional mark tokens ++ more := by
  unfold skipOptional
  rw [startsWith_more holds]
  split
  · exact tail_more holds more
  · rfl

end LookingAhead

/-! ## Passing over tokens -/

section Passing

variable
  {tokens : List Token}
  (more : List Token)

/-- A group is passed over with more behind as before. -/
theorem afterGroup_more
    {depth : Nat}
    (holds : HoldsDelimiter (afterGroup depth tokens)) :
    afterGroup depth (tokens ++ more) = afterGroup depth tokens ++ more := by
  fun_induction afterGroup depth tokens with
  | case1 => exact absurd rfl holds.ne_nil
  | case2 depth token rest opens hypothesis =>
      rw [List.cons_append, afterGroup, if_pos opens, hypothesis holds]
  | case3 depth token rest opens closes last =>
      rw [List.cons_append, afterGroup, if_neg opens, if_pos closes, if_pos last]
  | case4 depth token rest opens closes goesOn hypothesis =>
      rw [List.cons_append, afterGroup, if_neg opens, if_pos closes, if_neg goesOn,
        hypothesis holds]
  | case5 depth token rest opens closes hypothesis =>
      rw [List.cons_append, afterGroup, if_neg opens, if_neg closes, hypothesis holds]

/-- An expression is passed over with more behind as before. -/
theorem fromDelimiter_more
    {depth : Nat}
    (holds : HoldsDelimiter (fromDelimiter depth tokens)) :
    fromDelimiter depth (tokens ++ more) = fromDelimiter depth tokens ++ more := by
  fun_induction fromDelimiter depth tokens with
  | case1 => exact absurd rfl holds.ne_nil
  | case2 token rest ends => simp [fromDelimiter, ends]
  | case3 token rest ends opens hypothesis =>
      simp [fromDelimiter, ends, opens, hypothesis holds]
  | case4 token rest ends opens hypothesis =>
      simp [fromDelimiter, ends, opens, hypothesis holds]
  | case5 depth token rest opens hypothesis =>
      simp [fromDelimiter, opens, hypothesis holds]
  | case6 depth token rest opens closes hypothesis =>
      simp [fromDelimiter, opens, closes, hypothesis holds]
  | case7 depth token rest opens closes hypothesis =>
      simp [fromDelimiter, opens, closes, hypothesis holds]

/-- A group that may be absent is passed over with more behind as before. -/
theorem skipOptionalGroup_more
    {opener : Punctuator}
    (holds : HoldsDelimiter (skipOptionalGroup opener tokens)) :
    skipOptionalGroup opener (tokens ++ more) = skipOptionalGroup opener tokens ++ more := by
  have here := holds.of_suffix (skipOptionalGroup_suffix opener tokens)
  unfold skipOptionalGroup at *
  rw [startsWith_more here]
  split
  · next starts =>
      rw [if_pos starts] at holds
      exact afterGroup_more more holds
  · rfl

/-! ## Types -/

/-- Type arguments are passed over with more behind as before. -/
theorem readTypeArguments_more
    {depth : Nat}
    (holds : HoldsDelimiter (readTypeArguments depth tokens).2) :
    readTypeArguments depth (tokens ++ more) =
      ((readTypeArguments depth tokens).1, (readTypeArguments depth tokens).2 ++ more) := by
  fun_induction readTypeArguments depth tokens with
  | case1 => exact absurd rfl holds.ne_nil
  | case2 depth token rest less hypothesis => simp [readTypeArguments, less, hypothesis holds]
  | case3 depth token rest less greater last => simp [readTypeArguments, greater, last]
  | case4 depth token rest less greater goesOn hypothesis =>
      simp [readTypeArguments, greater, goesOn, hypothesis holds]
  | case5 depth token rest less greater part hypothesis =>
      simp [readTypeArguments, less, greater, part, hypothesis holds]
  | case6 depth token rest less greater noPart =>
      simp [readTypeArguments, less, greater, noPart]

/-- The rest of a type name is passed over with more behind as before. -/
theorem readTypeTail_more
    (holds : HoldsDelimiter (readTypeTail tokens).2) :
    readTypeTail (tokens ++ more) =
      ((readTypeTail tokens).1, (readTypeTail tokens).2 ++ more) := by
  have here := holds.of_suffix (readTypeTail_suffix tokens)
  fun_induction readTypeTail tokens with
  | case1 tokens starts rest reading hypothesis =>
      have inRest := holds.of_suffix (readTypeTail_suffix rest)
      have arguments := readTypeArguments_more more (by rw [reading]; exact inRest)
      rw [readTypeTail, dif_pos (by rwa [startsWith_more here]), arguments, reading]
      exact hypothesis holds inRest
  | case2 tokens starts rest reading =>
      have arguments := readTypeArguments_more more (by rw [reading]; exact holds)
      rw [readTypeTail, dif_pos (by rwa [startsWith_more here]), arguments, reading]
  | case3 tokens starts qualified hypothesis =>
      have inRest := holds.of_suffix (readTypeTail_suffix tokens.tail.tail)
      rw [readTypeTail, dif_neg (by rwa [startsWith_more here]),
        dif_pos (by rwa [startsQualifier_more here]), tail_more here,
        tail_more (inRest.of_suffix (List.tail_suffix _)), hypothesis holds inRest]
  | case4 tokens starts qualified =>
      rw [readTypeTail, dif_neg (by rwa [startsWith_more here]),
        dif_neg (by rwa [startsQualifier_more here])]

/-- Array ranks are passed over with more behind as before. -/
theorem afterRanks_more
    (holds : HoldsDelimiter (afterRanks tokens)) :
    afterRanks (tokens ++ more) = afterRanks tokens ++ more := by
  have here := holds.of_suffix (afterRanks_suffix tokens)
  fun_induction afterRanks tokens with
  | case1 tokens starts hypothesis =>
      have inRest := holds.of_suffix (afterRanks_suffix (afterGroup 0 tokens))
      rw [afterRanks, dif_pos (by rwa [startsWith_more here]), afterGroup_more more inRest,
        hypothesis holds inRest]
  | case2 tokens starts =>
      rw [afterRanks, dif_neg (by rwa [startsWith_more here])]

/-- A declared type is read with more behind as before. -/
theorem readDeclaredType_more
    (holds : HoldsDelimiter (readDeclaredType tokens).2) :
    readDeclaredType (tokens ++ more) =
      ((readDeclaredType tokens).1, (readDeclaredType tokens).2 ++ more) := by
  have here := holds.of_suffix (readDeclaredType_suffix tokens)
  unfold readDeclaredType at holds ⊢
  rw [firstWord?_more here, tail_more here]
  split
  · rfl
  · next isWord =>
      rw [if_neg isWord] at holds
      rcases reading : readTypeTail tokens.tail with ⟨complete, behind⟩
      rw [reading] at holds
      have typeTail (inBehind : HoldsDelimiter (readTypeTail tokens.tail).2) :=
        readTypeTail_more more inBehind
      rw [reading] at typeTail
      cases complete with
      | false => rw [typeTail holds]
      | true =>
          simp only at holds
          have inNamed : HoldsDelimiter (skipOptional .question behind) := by
            split at holds
            · exact holds.of_suffix (afterRanks_suffix _)
            · exact holds
          have inBehind := inNamed.of_suffix (skipOptional_suffix .question behind)
          rw [typeTail inBehind]
          simp only [skipOptional_more inBehind, startsWith_more inNamed]
          split
          · next ranks =>
              rw [if_pos ranks] at holds
              rw [afterRanks_more more holds]
          · rw [textUpTo_append_append]

end Passing

end InitializerJson
