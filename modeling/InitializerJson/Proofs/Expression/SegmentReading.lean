import InitializerJson.Proofs.Expression.ChainReading
import InitializerJson.Proofs.Expression.Segment

namespace InitializerJson

open Lexical

/-!
# Segments are read by themselves

Reading from a segment gives the same whether a delimiter follows or nothing does,
and leaves the rest of the segment.  What looks ahead by a token or two sees no
further than the delimiter, and declared types are read in this way.
-/

/--
Reading from some tokens gives the same before whatever ends an expression, and
leaves a segment in front of that.
-/
def ReadsApart {α : Type}
    (read : List Token → α × List Token)
    (tokens : List Token) :
    Prop :=
  ∃ value behind, IsSegment behind ∧
    ∀ rest, atExpressionEnd rest = true → read (tokens ++ rest) = (value, behind ++ rest)

/-- A reader takes the whole of every segment, without regard to what follows. -/
def Isolates
    (reader : Reader Expression) :
    Prop :=
  ∀ tokens, IsSegment tokens →
    ∃ value, ∀ rest, atExpressionEnd rest = true →
      reader.read (tokens ++ rest) = (value, rest)

/-- What is read from a segment is what is read where nothing follows. -/
theorem Isolates.read_append
    {reader : Reader Expression}
    (isolates : Isolates reader)
    {tokens rest : List Token}
    (segment : IsSegment tokens)
    (ends : atExpressionEnd rest = true) :
    reader.read (tokens ++ rest) = ((reader.read tokens).1, rest) := by
  obtain ⟨value, reads⟩ := isolates tokens segment
  have alone := reads [] rfl
  rw [List.append_nil] at alone
  rw [reads rest ends, alone]

/-! ## What is seen in front of a delimiter -/

section Front

variable
  {rest : List Token}
  (ends : atExpressionEnd rest = true)

include ends

/-- No word stands where an expression ends. -/
theorem firstWord?_of_atExpressionEnd :
    firstWord? rest = none := by
  cases rest with
  | nil => rfl
  | cons token others =>
      rcases token with ⟨kind, gap, lexeme⟩
      cases kind with
      | identifier word => cases ends
      | _ => rfl

/-- A mark that ends no expression is seen in the tokens before its end. -/
theorem startsWith_append
    {mark : Punctuator}
    (notDelimiter : mark.isDelimiter = false)
    (tokens : List Token) :
    startsWith mark (tokens ++ rest) = startsWith mark tokens := by
  cases tokens with
  | nil => exact startsWith_of_atExpressionEnd ends notDelimiter
  | cons token others => rfl

/-- A word is seen in the tokens before the end of an expression. -/
theorem firstWord?_append
    (tokens : List Token) :
    firstWord? (tokens ++ rest) = firstWord? tokens := by
  cases tokens with
  | nil => exact firstWord?_of_atExpressionEnd ends
  | cons token others => rfl

/-- A qualifier is seen in the tokens before the end of an expression. -/
theorem startsQualifier_append
    (tokens : List Token) :
    startsQualifier (tokens ++ rest) = startsQualifier tokens := by
  unfold startsQualifier
  rw [startsWith_append ends rfl, startsWith_append ends rfl]
  cases tokens with
  | nil => rfl
  | cons token others =>
      rw [List.cons_append, List.tail_cons, firstWord?_append ends, List.tail_cons]

/-- A member is seen in the tokens before the end of an expression. -/
theorem startsMember_append
    (tokens : List Token) :
    startsMember (tokens ++ rest) = startsMember tokens := by
  unfold startsMember
  rw [startsWith_append ends rfl, startsWith_append ends rfl, startsWith_append ends rfl]
  cases tokens with
  | nil => rfl
  | cons token others =>
      rw [List.cons_append, List.tail_cons, firstWord?_append ends, List.tail_cons]

/-- A label is passed over in the tokens before the end of an expression. -/
theorem skipLabel_append
    (tokens : List Token) :
    skipLabel (tokens ++ rest) = skipLabel tokens ++ rest := by
  unfold skipLabel
  rw [firstWord?_append ends]
  cases tokens with
  | nil => rfl
  | cons token others =>
      rw [List.cons_append, List.tail_cons, startsWith_append ends rfl, List.tail_cons]
      split
      · next labelled =>
          rw [Bool.and_eq_true] at labelled
          exact List.tail_append_of_ne_nil (ne_nil_of_startsWith labelled.2)
      · rfl

/-- A mark that ends no expression is passed over in the tokens before its end. -/
theorem skipOptional_append
    {mark : Punctuator}
    (notDelimiter : mark.isDelimiter = false)
    (tokens : List Token) :
    skipOptional mark (tokens ++ rest) = skipOptional mark tokens ++ rest := by
  unfold skipOptional
  rw [startsWith_append ends notDelimiter]
  split
  · next starts => exact List.tail_append_of_ne_nil (ne_nil_of_startsWith starts)
  · rfl

end Front

/-- The text between two places does not depend on what follows both. -/
theorem textUpTo_append_append
    (start behind rest : List Token) :
    textUpTo (start ++ rest) (behind ++ rest) = textUpTo start behind := by
  have shorter : start.length - behind.length ≤ start.length := Nat.sub_le _ _
  simp only [textUpTo, taken, List.length_append, Nat.add_sub_add_right,
    List.take_append_of_le_length shorter]

/-- An expression of no known form does not depend on what follows its end. -/
theorem unsupportedUpTo_append
    (start behind rest : List Token) :
    unsupportedUpTo (start ++ rest) (behind ++ rest) =
      ((unsupportedUpTo start behind).1, behind ++ rest) := by
  rw [unsupportedUpTo, textUpTo_append_append]
  rfl

/-- Behind a word, the tokens go on. -/
theorem tail_append_of_word
    {tokens : List Token}
    (isWord : (firstWord? tokens).isSome)
    (rest : List Token) :
    (tokens ++ rest).tail = tokens.tail ++ rest := by
  cases tokens with
  | nil => cases isWord
  | cons token others => rfl

/-- Behind two tokens, of which the second is a word, the tokens go on. -/
theorem tail_tail_append
    {tokens : List Token}
    (isWord : (firstWord? tokens.tail).isSome)
    (rest : List Token) :
    (tokens ++ rest).tail.tail = tokens.tail.tail ++ rest := by
  cases tokens with
  | nil => cases isWord
  | cons first others =>
      cases others with
      | nil => cases isWord
      | cons second more => rfl

/-- Behind a mark and a word, a segment goes on. -/
theorem IsSegment.behind_word
    {tokens : List Token}
    (segment : IsSegment tokens)
    {mark : Punctuator}
    (starts : startsWith mark tokens = true)
    (notOpener : mark.isOpener = false)
    (isWord : (firstWord? tokens.tail).isSome) :
    IsSegment tokens.tail.tail :=
  (segment.tail_of_startsWith starts notOpener).tail_of_word isWord

/-- A group opens where an opening bracket stands. -/
theorem atOpener_of_startsWith
    {tokens : List Token}
    {mark : Punctuator}
    (starts : startsWith mark tokens = true)
    (opens : mark.isOpener = true) :
    atOpener tokens = true := by
  cases tokens with
  | nil => cases starts
  | cons token rest =>
      rw [startsWith, beq_iff_eq] at starts
      rw [atOpener, Token.isOpener, starts]
      exact opens

/-- What is kept as text up to some place in a segment is read apart from what follows. -/
theorem ReadsApart.of_unsupportedUpTo
    {read : List Token → Expression × List Token}
    {tokens behind : List Token}
    (isBehind : IsSegment behind)
    (reads : ∀ rest, atExpressionEnd rest = true →
      read (tokens ++ rest) = unsupportedUpTo (tokens ++ rest) (behind ++ rest)) :
    ReadsApart read tokens := by
  refine ⟨(unsupportedUpTo tokens behind).1, behind, isBehind, fun rest ends => ?_⟩
  rw [reads rest ends, unsupportedUpTo_append]

/-! ## Types -/

section Types

variable
  {tokens : List Token}
  (segment : IsSegment tokens)

include segment

/-- The rest of a type name is read apart from what follows. -/
theorem readTypeTail_apart :
    ReadsApart readTypeTail tokens := by
  induction tokens using readTypeTail.induct with
  | case1 tokens starts | case2 tokens starts =>
      -- Type arguments begin with a less-than sign, and no segment holds one.
      rw [segment.startsWith_less] at starts
      cases starts
  | case3 tokens starts qualified hypothesis =>
      obtain ⟨marked, isWord⟩ := Bool.and_eq_true_iff.mp qualified
      have behind : IsSegment tokens.tail.tail := by
        rcases Bool.or_eq_true_iff.mp marked with dot | scope
        · exact segment.behind_word dot rfl isWord
        · exact segment.behind_word scope rfl isWord
      obtain ⟨value, left, isSegment, apart⟩ := hypothesis behind
      refine ⟨value, left, isSegment, fun rest ends => ?_⟩
      rw [readTypeTail, dif_neg (by rwa [startsWith_append ends rfl]),
        dif_pos (by rwa [startsQualifier_append ends]), tail_tail_append isWord, apart rest ends]
  | case4 tokens starts notQualified =>
      refine ⟨true, tokens, segment, fun rest ends => ?_⟩
      rw [readTypeTail, dif_neg (by rwa [startsWith_append ends rfl]),
        dif_neg (by rwa [startsQualifier_append ends])]

/-- Array ranks are passed over apart from what follows. -/
theorem afterRanks_apart :
    ∃ behind, IsSegment behind ∧
      ∀ rest, atExpressionEnd rest = true → afterRanks (tokens ++ rest) = behind ++ rest := by
  induction tokens using afterRanks.induct with
  | case1 tokens starts hypothesis =>
      obtain ⟨isBehind, groupApart⟩ :=
        segment.afterGroup_apart (atOpener_of_startsWith starts rfl)
      obtain ⟨behind, isSegment, apart⟩ := hypothesis isBehind
      refine ⟨behind, isSegment, fun rest ends => ?_⟩
      rw [afterRanks, dif_pos (by rwa [startsWith_append ends rfl]), groupApart, apart rest ends]
  | case2 tokens starts =>
      refine ⟨tokens, segment, fun rest ends => ?_⟩
      rw [afterRanks, dif_neg (by rwa [startsWith_append ends rfl])]

/-- A mark that is no bracket is passed over within a segment. -/
theorem IsSegment.skipOptional
    {mark : Punctuator}
    (notOpener : mark.isOpener = false) :
    IsSegment (skipOptional mark tokens) := by
  unfold InitializerJson.skipOptional
  split
  · next starts => exact segment.tail_of_startsWith starts notOpener
  · exact segment

/-- A declared type is read apart from what follows. -/
theorem readDeclaredType_apart :
    ReadsApart readDeclaredType tokens := by
  by_cases noWord : (firstWord? tokens).isNone
  · refine ⟨.malformed, tokens, segment, fun rest ends => ?_⟩
    rw [readDeclaredType, firstWord?_append ends, if_pos noWord]
  have isWord : (firstWord? tokens).isSome := by
    simpa [Option.isSome_iff_ne_none] using noWord
  obtain ⟨complete, behind, isBehind, tailApart⟩ :=
    readTypeTail_apart (segment.tail_of_word isWord)
  have opened (rest : List Token) (ends : atExpressionEnd rest = true) :
      readTypeTail (tokens ++ rest).tail = (complete, behind ++ rest) := by
    rw [tail_append_of_word isWord, tailApart rest ends]
  cases complete with
  | false =>
      refine ⟨.malformed, behind, isBehind, fun rest ends => ?_⟩
      rw [readDeclaredType, firstWord?_append ends, if_neg noWord, opened rest ends]
  | true =>
      have isNamed : IsSegment (skipOptional .question behind) := isBehind.skipOptional rfl
      have passed (rest : List Token) (ends : atExpressionEnd rest = true) :
          skipOptional .question (behind ++ rest) = skipOptional .question behind ++ rest :=
        skipOptional_append ends rfl behind
      by_cases ranks : startsWith .openBracket (skipOptional .question behind) = true
      · obtain ⟨left, isLeft, ranksApart⟩ := afterRanks_apart isNamed
        refine ⟨.array, left, isLeft, fun rest ends => ?_⟩
        rw [readDeclaredType, firstWord?_append ends, if_neg noWord, opened rest ends]
        simp only [passed rest ends]
        rw [if_pos (by rwa [startsWith_append ends rfl]), ranksApart rest ends]
      · refine ⟨.named (textUpTo tokens (skipOptional .question behind)), _, isNamed,
          fun rest ends => ?_⟩
        rw [readDeclaredType, firstWord?_append ends, if_neg noWord, opened rest ends]
        simp only [passed rest ends]
        rw [if_neg (by rwa [startsWith_append ends rfl]), textUpTo_append_append]

end Types

end InitializerJson
