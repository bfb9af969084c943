import InitializerJson.Proofs.Expression.InnerPlaces
import InitializerJson.Proofs.Expression.ListReading
import InitializerJson.Proofs.Expression.SegmentReading

namespace InitializerJson

open Lexical

/-!
# Arguments and entries are read segment by segment

Where expressions take the whole of every segment, the arguments in parentheses
and the entries in braces are those of the segments between the commas, each read
by itself.
-/

/-- What the first token shows when its mark is known. -/
theorem startsWith_of_mark
    {token : Token}
    {mark : Punctuator}
    (isMark : token.punctuator? = some mark)
    (wanted : Punctuator)
    (rest : List Token) :
    startsWith wanted (token :: rest) = decide (mark = wanted) := by
  by_cases same : mark = wanted <;> simp [startsWith, isMark, same]

/-- An expression ends before a delimiter. -/
theorem atExpressionEnd_of_mark
    {token : Token}
    {mark : Punctuator}
    (isMark : token.punctuator? = some mark)
    (delimits : mark.isDelimiter = true)
    (rest : List Token) :
    atExpressionEnd (token :: rest) = true := by
  rw [atExpressionEnd, Token.isDelimiter, isMark]
  exact delimits

/-- A label is passed over within a segment. -/
theorem IsSegment.skipLabel
    {tokens : List Token}
    (segment : IsSegment tokens) :
    IsSegment (skipLabel tokens) := by
  unfold InitializerJson.skipLabel
  split
  · next labelled =>
      obtain ⟨isWord, colon⟩ := Bool.and_eq_true_iff.mp labelled
      exact (segment.tail_of_word isWord).tail_of_startsWith colon rfl
  · exact segment

/-- The segments of a block that are entries: behind the last comma there may be none. -/
def entrySegments : List (List Token) → List (List Token)
  | [] => []
  | [last] => if last.isEmpty then [] else [last]
  | segment :: second :: segments => segment :: entrySegments (second :: segments)

section Lists

variable
  {inner : Reader Expression}
  (isolates : Isolates inner)
  {tokens : List Token}

include isolates

/-- Segments in parentheses are read as arguments, whatever follows them. -/
theorem Separated.readArgumentList
    {segments : List (List Token)}
    (separated : Separated segments tokens)
    (areSegments : ∀ segment ∈ segments, IsSegment segment) :
    ∃ arguments, ∀ closing rest, closing.punctuator? = some .closeParenthesis →
      readArgumentList inner (tokens ++ closing :: rest) = (arguments, rest) := by
  induction separated with
  | @last segment =>
      have isSegment := (areSegments segment List.mem_cons_self).skipLabel
      refine ⟨[(inner.read (InitializerJson.skipLabel segment)).1],
        fun closing rest isClosing => ?_⟩
      have ends := atExpressionEnd_of_mark isClosing rfl rest
      rw [readArgumentList_step, skipLabel_append ends]
      simp only [isolates.read_append isSegment ends, skipOptional,
        startsWith_of_mark isClosing]
      rfl
  | @cons segment others segments comma isComma behind hypothesis =>
      obtain ⟨isSegment, othersAreSegments⟩ := List.forall_mem_cons.mp areSegments
      obtain ⟨arguments, reads⟩ := hypothesis othersAreSegments
      refine ⟨(inner.read (InitializerJson.skipLabel segment)).1 :: arguments,
        fun closing rest isClosing => ?_⟩
      have ends := atExpressionEnd_of_mark isComma rfl (others ++ closing :: rest)
      rw [List.append_assoc, List.cons_append, readArgumentList_step, skipLabel_append ends]
      simp only [isolates.read_append isSegment.skipLabel ends, startsWith_of_mark isComma,
        List.tail_cons, reads closing rest isClosing]
      rfl

/-- One step along the entries of a block, in front of a mark that is not its end. -/
theorem readEntries_segment
    (segment : IsSegment tokens)
    {rest : List Token}
    (ends : atExpressionEnd rest = true)
    (nonempty : tokens ++ rest ≠ [])
    (notClosed : startsWith .closeBrace (tokens ++ rest) = false) :
    readEntries inner (tokens ++ rest) =
      if startsWith .comma rest then
        ((inner.read tokens).1 :: (readEntries inner rest.tail).1,
          (readEntries inner rest.tail).2)
      else
        ([(inner.read tokens).1], skipOptional .closeBrace rest) := by
  rw [readEntries_step, isolates.read_append segment ends, if_neg, if_neg]
  · simp [notClosed]
  · simpa using nonempty

/-- Segments in braces are read as entries, each of them by itself. -/
theorem Separated.readEntries
    {segments : List (List Token)}
    (separated : Separated segments tokens)
    (areSegments : ∀ segment ∈ segments, IsSegment segment)
    {closing : Token}
    (isClosing : closing.punctuator? = some .closeBrace)
    (rest : List Token) :
    readEntries inner (tokens ++ closing :: rest) =
      ((entrySegments segments).map fun segment => (inner.read segment).1, rest) := by
  induction separated with
  | @last segment =>
      have isSegment := areSegments segment List.mem_cons_self
      have ends := atExpressionEnd_of_mark isClosing rfl rest
      cases segment with
      | nil =>
          rw [List.nil_append, readEntries_step]
          simp [startsWith_of_mark isClosing, entrySegments]
      | cons token others =>
          rw [readEntries_segment isolates isSegment ends (by simp)
            (notClosed_of_begins isSegment.notDelimiter)]
          simp [startsWith_of_mark isClosing, entrySegments, skipOptional]
  | @cons segment others segments comma isComma behind hypothesis =>
      obtain ⟨isSegment, othersAreSegments⟩ := List.forall_mem_cons.mp areSegments
      have ends := atExpressionEnd_of_mark isComma rfl (others ++ closing :: rest)
      have notClosed :
          startsWith .closeBrace (segment ++ comma :: (others ++ closing :: rest)) = false := by
        cases segment with
        | nil => exact startsWith_of_mark isComma _ _
        | cons token more => exact notClosed_of_begins isSegment.notDelimiter
      have entries : entrySegments (segment :: segments) = segment :: entrySegments segments := by
        cases behind <;> rfl
      rw [List.append_assoc, List.cons_append,
        readEntries_segment isolates isSegment ends (by simp) notClosed, entries,
        startsWith_of_mark isComma, List.tail_cons, hypothesis othersAreSegments]
      rfl

/-- Balanced tokens in parentheses are read as arguments, whatever follows them. -/
theorem Balanced.readArguments
    (balanced : Balanced true tokens) :
    ∃ arguments, ∀ closing rest, closing.punctuator? = some .closeParenthesis →
      readArguments inner (tokens ++ closing :: rest) = (arguments, rest) := by
  cases tokens with
  | nil =>
      refine ⟨[], fun closing rest isClosing => ?_⟩
      rw [List.nil_append, InitializerJson.readArguments, startsWith_of_mark isClosing]
      rfl
  | cons token others =>
      obtain ⟨first, segments, separated, areSegments⟩ := balanced.exists_separated
      obtain ⟨arguments, reads⟩ := separated.readArgumentList isolates areSegments
      refine ⟨arguments, fun closing rest isClosing => ?_⟩
      have notClosed :
          startsWith .closeParenthesis (token :: (others ++ closing :: rest)) = false := by
        rw [startsWith, beq_eq_false_iff_ne]
        intro closes
        have isCloser : token.isCloser = true := by
          rw [Token.isCloser, closes]
          rfl
        rw [balanced.notCloser] at isCloser
        cases isCloser
      rw [List.cons_append, InitializerJson.readArguments, notClosed, if_neg Bool.false_ne_true]
      exact reads closing rest isClosing

/-- The arguments behind an opening parenthesis are read apart from what follows. -/
theorem readArguments_apart
    (segment : IsSegment tokens)
    (starts : startsWith .openParenthesis tokens = true) :
    ReadsApart (fun tokens => readArguments inner tokens.tail) tokens := by
  obtain ⟨opening, inside, closing, behind, rfl, isClosing, nested, isBehind⟩ :=
    segment.exists_group starts rfl
  obtain ⟨arguments, reads⟩ := nested.readArguments isolates
  refine ⟨arguments, behind, isBehind, fun rest _ => ?_⟩
  simp only [List.cons_append, List.append_assoc, List.tail_cons]
  exact reads closing (behind ++ rest) isClosing

/-- Arguments that may be absent are read apart from what follows. -/
theorem readOptionalArguments_apart
    (segment : IsSegment tokens) :
    ReadsApart (readOptionalArguments inner) tokens := by
  by_cases starts : startsWith .openParenthesis tokens = true
  · obtain ⟨arguments, behind, isBehind, apart⟩ := readArguments_apart isolates segment starts
    refine ⟨arguments, behind, isBehind, fun rest ends => ?_⟩
    rw [readOptionalArguments, startsWith_append ends rfl, if_pos starts]
    exact apart rest ends
  · refine ⟨[], tokens, segment, fun rest ends => ?_⟩
    rw [readOptionalArguments, startsWith_append ends rfl, if_neg starts]

/-- The entries behind an opening brace are read apart from what follows. -/
theorem readEntries_apart
    (segment : IsSegment tokens)
    (starts : startsWith .openBrace tokens = true) :
    ReadsApart (fun tokens => readEntries inner tokens.tail) tokens := by
  obtain ⟨opening, inside, closing, behind, rfl, isClosing, nested, isBehind⟩ :=
    segment.exists_group starts rfl
  obtain ⟨first, segments, separated, areSegments⟩ := nested.exists_separated
  refine ⟨(entrySegments (first :: segments)).map fun segment => (inner.read segment).1,
    behind, isBehind, fun rest _ => ?_⟩
  simp only [List.cons_append, List.append_assoc, List.tail_cons]
  exact separated.readEntries isolates areSegments isClosing (behind ++ rest)

/-- A block that may be absent is read apart from what follows. -/
theorem readBlock?_apart
    (segment : IsSegment tokens) :
    ReadsApart (readBlock? inner) tokens := by
  by_cases starts : startsWith .openBrace tokens = true
  · obtain ⟨entries, behind, isBehind, apart⟩ := readEntries_apart isolates segment starts
    refine ⟨some entries, behind, isBehind, fun rest ends => ?_⟩
    rw [readBlock?, startsWith_append ends rfl, if_pos starts]
    simp only [apart rest ends]
  · refine ⟨none, tokens, segment, fun rest ends => ?_⟩
    rw [readBlock?, startsWith_append ends rfl, if_neg starts]

end Lists

end InitializerJson
