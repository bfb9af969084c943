import InitializerJson.Proofs.Expression.SegmentLists

namespace InitializerJson

open Lexical

/-!
# Expressions take the whole of their segments

Wherever the parts of an expression stop, what is left of its segment is passed
over.  The entries of a block are therefore read one by one, as if each stood
alone, whatever they hold.
-/

/-! ## Creations and chains -/

/-- A group that may be absent does not depend on what follows. -/
theorem skipOptionalGroup_apart
    {tokens : List Token}
    (segment : IsSegment tokens)
    (opener : Punctuator)
    (opens : opener.isOpener = true) :
    IsSegment (skipOptionalGroup opener tokens) ∧
      ∀ rest, atExpressionEnd rest = true →
        skipOptionalGroup opener (tokens ++ rest) = skipOptionalGroup opener tokens ++ rest := by
  have notDelimiter : opener.isDelimiter = false := by
    cases opener <;> first | rfl | cases opens
  by_cases starts : startsWith opener tokens = true
  · obtain ⟨isBehind, apart⟩ := segment.afterGroup_apart (atOpener_of_startsWith starts opens)
    refine ⟨?_, fun rest ends => ?_⟩
    · rwa [skipOptionalGroup, if_pos starts]
    · rw [skipOptionalGroup, startsWith_append ends notDelimiter, if_pos starts, apart,
        skipOptionalGroup, if_pos starts]
  · refine ⟨?_, fun rest ends => ?_⟩
    · rwa [skipOptionalGroup, if_neg starts]
    · rw [skipOptionalGroup, startsWith_append ends notDelimiter, if_neg starts,
        skipOptionalGroup, if_neg starts]

/-- The last part of a chain, with more tokens behind all of it. -/
def ChainEnd.append
    (rest : List Token) :
    ChainEnd → ChainEnd
  | member => member
  | call opening arguments => call (opening ++ rest) arguments
  | access => access

/-- What a chain is does not depend on what follows its end. -/
theorem ChainEnd.toExpression_append
    (last : ChainEnd)
    (start behind rest : List Token) :
    (last.append rest).toExpression (start ++ rest) (behind ++ rest) =
      last.toExpression start behind := by
  cases last <;> simp only [append, toExpression, textUpTo_append_append]

section Parts

variable
  {inner : Reader Expression}
  (isolates : Isolates inner)
  {tokens : List Token}

include isolates

/-- A creation without a type is read apart from what follows. -/
theorem readCreation_apart_of_call
    (segment : IsSegment tokens)
    (isWord : (firstWord? tokens).isSome)
    (call : startsWith .openParenthesis tokens.tail = true) :
    ReadsApart (readCreation inner) tokens := by
  obtain ⟨arguments, left, isLeft, argumentsApart⟩ :=
    readArguments_apart isolates (segment.tail_of_word isWord) call
  obtain ⟨block, behind, isBehind, blockApart⟩ := readBlock?_apart isolates isLeft
  refine ⟨.targetTypedCreation arguments block, behind, isBehind, fun rest ends => ?_⟩
  have argumentsRead := argumentsApart rest ends
  have callToo : startsWith .openParenthesis (tokens.tail ++ rest) = true := by
    rwa [startsWith_append ends rfl]
  simp only [readCreation, tail_append_of_word isWord, callToo, if_true, argumentsRead,
    blockApart rest ends]

omit isolates in
/-- An anonymous object or array is passed over apart from what follows. -/
theorem readCreation_apart_of_group
    (segment : IsSegment tokens)
    (isWord : (firstWord? tokens).isSome)
    (noCall : ¬ startsWith .openParenthesis tokens.tail = true)
    (group :
      (startsWith .openBrace tokens.tail || startsWith .openBracket tokens.tail) = true) :
    ReadsApart (readCreation inner) tokens := by
  have opens : atOpener tokens.tail = true := by
    rcases Bool.or_eq_true_iff.mp group with brace | square
    · exact atOpener_of_startsWith brace rfl
    · exact atOpener_of_startsWith square rfl
  obtain ⟨isLeft, groupApart⟩ := (segment.tail_of_word isWord).afterGroup_apart opens
  obtain ⟨isBehind, blockApart⟩ := skipOptionalGroup_apart isLeft .openBrace rfl
  refine .of_unsupportedUpTo isBehind fun rest ends => ?_
  simp only [readCreation, tail_append_of_word isWord]
  rw [startsWith_append ends rfl, if_neg noCall, startsWith_append ends rfl,
    startsWith_append ends rfl, if_pos group, groupApart, blockApart rest ends]

/-- A creation that is to name its type is read apart from what follows. -/
theorem readCreation_apart_of_type
    (segment : IsSegment tokens)
    (isWord : (firstWord? tokens).isSome)
    (noCall : ¬ startsWith .openParenthesis tokens.tail = true)
    (noGroup :
      ¬ (startsWith .openBrace tokens.tail || startsWith .openBracket tokens.tail) = true) :
    ReadsApart (readCreation inner) tokens := by
  obtain ⟨type, left, isLeft, typeApart⟩ :=
    readDeclaredType_apart (segment.tail_of_word isWord)
  have typed (rest : List Token) (ends : atExpressionEnd rest = true) :
      readCreation inner (tokens ++ rest) =
        match type with
        | .malformed => unsupportedUpTo (tokens ++ rest) (left ++ rest)
        | .array =>
            unsupportedUpTo (tokens ++ rest) (skipOptionalGroup .openBrace (left ++ rest))
        | .named name =>
            let arguments := readOptionalArguments inner (left ++ rest)
            let block := readBlock? inner arguments.2
            (.creation name arguments.1 block.1, block.2) := by
    simp only [readCreation, tail_append_of_word isWord]
    rw [startsWith_append ends rfl, if_neg noCall, startsWith_append ends rfl,
      startsWith_append ends rfl, if_neg noGroup, typeApart rest ends]
    cases type <;> rfl
  cases type with
  | malformed => exact .of_unsupportedUpTo isLeft typed
  | array =>
      obtain ⟨isBehind, blockApart⟩ := skipOptionalGroup_apart isLeft .openBrace rfl
      refine .of_unsupportedUpTo isBehind fun rest ends => ?_
      rw [typed rest ends, ← blockApart rest ends]
  | named name =>
      obtain ⟨arguments, more, isMore, argumentsApart⟩ :=
        readOptionalArguments_apart isolates isLeft
      obtain ⟨block, behind, isBehind, blockApart⟩ := readBlock?_apart isolates isMore
      refine ⟨.creation name arguments block, behind, isBehind, fun rest ends => ?_⟩
      rw [typed rest ends]
      simp only [argumentsApart rest ends, blockApart rest ends]

/-- A creation is read apart from what follows. -/
theorem readCreation_apart
    (segment : IsSegment tokens)
    (isWord : (firstWord? tokens).isSome) :
    ReadsApart (readCreation inner) tokens := by
  by_cases call : startsWith .openParenthesis tokens.tail = true
  · exact readCreation_apart_of_call isolates segment isWord call
  by_cases group :
      (startsWith .openBrace tokens.tail || startsWith .openBracket tokens.tail) = true
  · exact readCreation_apart_of_group segment isWord call group
  · exact readCreation_apart_of_type isolates segment isWord call group

/-- A chain is read apart from what follows. -/
theorem readChain_apart
    (segment : IsSegment tokens)
    (start : List Token)
    (last : ChainEnd) :
    ∃ value behind, IsSegment behind ∧ ∀ rest, atExpressionEnd rest = true →
      readChain inner (start ++ rest) (last.append rest) (tokens ++ rest) =
        (value, behind ++ rest) := by
  -- The chain is followed where it stands alone; what follows is put behind the tokens, the start
  -- and the opening of the last call alike, so that every text keeps its two ends.
  induction last, tokens using readChain.induct inner with
  | case1 last tokens isMember hypothesis =>
      obtain ⟨marked, isWord⟩ := Bool.and_eq_true_iff.mp isMember
      have isBehind : IsSegment tokens.tail.tail := by
        rcases Bool.or_eq_true_iff.mp marked with dots | scope
        · rcases Bool.or_eq_true_iff.mp dots with dot | conditional
          · exact segment.behind_word dot rfl isWord
          · exact segment.behind_word conditional rfl isWord
        · exact segment.behind_word scope rfl isWord
      obtain ⟨value, left, isLeft, apart⟩ := hypothesis isBehind
      refine ⟨value, left, isLeft, fun rest ends => ?_⟩
      rw [readChain_step, startsMember_append ends, if_pos isMember, tail_tail_append isWord]
      exact apart rest ends
  | case2 last tokens notMember call arguments behind reading hypothesis =>
      obtain ⟨value, left, isLeft, argumentsApart⟩ := readArguments_apart isolates segment call
      have alone := argumentsApart [] rfl
      simp only [List.append_nil, reading, Prod.mk.injEq] at alone
      obtain ⟨rfl, rfl⟩ := alone
      obtain ⟨chain, more, isMore, apart⟩ := hypothesis isLeft
      refine ⟨chain, more, isMore, fun rest ends => ?_⟩
      rw [readChain_step, startsMember_append ends, if_neg notMember,
        startsWith_append ends rfl, if_pos call]
      simp only [argumentsApart rest ends]
      exact apart rest ends
  | case3 last tokens notMember notCall access hypothesis =>
      obtain ⟨isBehind, groupApart⟩ :=
        segment.afterGroup_apart (atOpener_of_startsWith access rfl)
      obtain ⟨value, left, isLeft, apart⟩ := hypothesis isBehind
      refine ⟨value, left, isLeft, fun rest ends => ?_⟩
      rw [readChain_step, startsMember_append ends, if_neg notMember,
        startsWith_append ends rfl, if_neg notCall, startsWith_append ends rfl, if_pos access,
        groupApart]
      exact apart rest ends
  | case4 last tokens notMember notCall notAccess =>
      refine ⟨last.toExpression start tokens, tokens, segment, fun rest ends => ?_⟩
      rw [readChain_step, startsMember_append ends, if_neg notMember,
        startsWith_append ends rfl, if_neg notCall, startsWith_append ends rfl,
        if_neg notAccess, ChainEnd.toExpression_append]

end Parts

/-! ## Whole expressions -/

/-- One token or group is passed over apart from what follows. -/
theorem readUnsupported_apart
    {tokens : List Token}
    (segment : IsSegment tokens) :
    ReadsApart readUnsupported tokens := by
  by_cases opens : atOpener tokens = true
  · obtain ⟨isBehind, groupApart⟩ := segment.afterGroup_apart opens
    refine .of_unsupportedUpTo isBehind fun rest _ => ?_
    have opensToo : atOpener (tokens ++ rest) = true := by
      cases tokens with
      | nil => cases opens
      | cons token others => exact opens
    rw [readUnsupported, if_pos opensToo, groupApart]
  cases tokens with
  | nil =>
      refine .of_unsupportedUpTo segment fun rest ends => ?_
      have noOpener : atOpener rest = false := by
        cases rest with
        | nil => rfl
        | cons token others =>
            by_contra opensRest
            have notDelimiter := isDelimiter_of_isOpener (Bool.of_not_eq_false opensRest)
            rw [atExpressionEnd, notDelimiter] at ends
            cases ends
      rw [List.nil_append, readUnsupported, noOpener, if_neg Bool.false_ne_true, if_pos ends]
  | cons token others =>
      have isTail : IsSegment others := segment.tail (Bool.eq_false_iff.mpr opens)
      refine .of_unsupportedUpTo isTail fun rest _ => ?_
      have goesOn : ¬ atExpressionEnd (token :: (others ++ rest)) = true := by
        rw [atExpressionEnd, segment.notDelimiter]
        exact Bool.false_ne_true
      have noGroup : ¬ atOpener (token :: (others ++ rest)) = true := opens
      rw [List.cons_append, readUnsupported, if_neg noGroup, if_neg goesOn, List.tail_cons]

/-- A numeral that ends somewhere in a segment is read apart from what follows. -/
theorem ReadsApart.of_numberUpTo
    {read : List Token → Expression × List Token}
    {tokens behind : List Token}
    {text : String}
    {negative : Bool}
    (isBehind : IsSegment behind)
    (reads : ∀ rest, atExpressionEnd rest = true →
      read (tokens ++ rest) = numberUpTo text negative (tokens ++ rest) (behind ++ rest)) :
    ReadsApart read tokens := by
  refine ⟨(numberUpTo text negative tokens behind).1, behind, isBehind, fun rest ends => ?_⟩
  rw [reads rest ends]
  unfold numberUpTo
  split
  · rfl
  · exact unsupportedUpTo_append tokens behind rest

/-- A bracketed index does not depend on what follows its end. -/
theorem indexUpTo_apart
    {tokens : List Token}
    (segment : IsSegment tokens)
    (opens : atOpener tokens = true) :
    ReadsApart
      (fun tokens =>
        (Expression.index (textUpTo tokens (afterGroup 0 tokens)), afterGroup 0 tokens))
      tokens := by
  obtain ⟨isBehind, groupApart⟩ := segment.afterGroup_apart opens
  refine ⟨.index (textUpTo tokens (afterGroup 0 tokens)), afterGroup 0 tokens, isBehind,
    fun rest _ => ?_⟩
  simp only [groupApart, textUpTo_append_append]

section Whole

variable
  {token : Token}
  {tokens : List Token}

/-- What begins with a minus sign is read apart from what follows. -/
theorem readNegative_apart
    (segment : IsSegment (token :: tokens))
    (isMinus : token.punctuator? = some .minus) :
    ReadsApart readNegative (token :: tokens) := by
  have isTail : IsSegment tokens :=
    segment.tail_of_startsWith (beq_iff_eq.mpr isMinus) rfl
  obtain ⟨value, behind, isBehind, apart⟩ := readUnsupported_apart segment
  cases tokens with
  | nil =>
      -- The sign looks at what follows the segment, but a delimiter is no numeral.
      refine ⟨value, behind, isBehind, fun rest ends => ?_⟩
      rw [← apart rest ends]
      cases rest with
      | nil => rfl
      | cons next others =>
          rcases next with ⟨kind, gap, lexeme⟩
          cases kind with
          | number text => cases ends
          | _ => rfl
  | cons next others =>
      rcases next with ⟨kind, gap, lexeme⟩
      cases kind with
      | number text =>
          exact .of_numberUpTo (isTail.tail rfl) fun rest _ => rfl
      | _ => exact ⟨value, behind, isBehind, fun rest ends => apart rest ends⟩

variable
  {inner : Reader Expression}
  (isolates : Isolates inner)

include isolates

/-- What begins with a word is read apart from what follows. -/
theorem readWord_apart
    {word : String}
    (segment : IsSegment (token :: tokens))
    (isWord : token.word? = some word) :
    ReadsApart (readWord inner word) (token :: tokens) := by
  have found : (firstWord? (token :: tokens)).isSome := by
    rw [firstWord?, isWord]
    rfl
  have isTail : IsSegment tokens := segment.tail_of_word found
  by_cases isNull : word = "null"
  · exact ⟨.literal .null, tokens, isTail, fun rest _ => by rw [readWord, if_pos isNull]; rfl⟩
  by_cases isTrue : word = "true"
  · refine ⟨.literal (.bool true), tokens, isTail, fun rest _ => ?_⟩
    rw [readWord, if_neg isNull, if_pos isTrue]
    rfl
  by_cases isFalse : word = "false"
  · refine ⟨.literal (.bool false), tokens, isTail, fun rest _ => ?_⟩
    rw [readWord, if_neg isNull, if_neg isTrue, if_pos isFalse]
    rfl
  have seen (rest : List Token) (ends : atExpressionEnd rest = true) :
      startsWith .openParenthesis (token :: tokens ++ rest).tail =
        startsWith .openParenthesis tokens :=
    startsWith_append ends rfl tokens
  by_cases isDefault : (word = "default" && !startsWith .openParenthesis tokens) = true
  · refine ⟨.literal (.verbatim word), tokens, isTail, fun rest ends => ?_⟩
    rw [readWord, if_neg isNull, if_neg isTrue, if_neg isFalse, seen rest ends,
      if_pos isDefault]
    rfl
  have other (rest : List Token) (ends : atExpressionEnd rest = true) :
      readWord inner word (token :: tokens ++ rest) =
        if word = "new" then
          readCreation inner (token :: tokens ++ rest)
        else if beginsChain word then
          readChain inner (token :: tokens ++ rest) .member (tokens ++ rest)
        else
          readUnsupported (token :: tokens ++ rest) := by
    rw [readWord, if_neg isNull, if_neg isTrue, if_neg isFalse, seen rest ends,
      if_neg isDefault]
    rfl
  by_cases isNew : word = "new"
  · obtain ⟨value, behind, isBehind, apart⟩ := readCreation_apart isolates segment found
    refine ⟨value, behind, isBehind, fun rest ends => ?_⟩
    rw [other rest ends, if_pos isNew, apart rest ends]
  by_cases chained : beginsChain word = true
  · obtain ⟨value, behind, isBehind, apart⟩ :=
      readChain_apart isolates isTail (token :: tokens) .member
    refine ⟨value, behind, isBehind, fun rest ends => ?_⟩
    rw [other rest ends, if_neg isNew, if_pos chained]
    exact apart rest ends
  · obtain ⟨value, behind, isBehind, apart⟩ := readUnsupported_apart segment
    refine ⟨value, behind, isBehind, fun rest ends => ?_⟩
    rw [other rest ends, if_neg isNew, if_neg chained, apart rest ends]

/-- An expression without operators is read apart from what follows. -/
theorem readPrimary_apart
    (segment : IsSegment tokens) :
    ReadsApart (readPrimary inner) tokens := by
  cases tokens with
  | nil =>
      obtain ⟨value, behind, isBehind, apart⟩ := readUnsupported_apart segment
      refine ⟨value, behind, isBehind, fun rest ends => ?_⟩
      rw [← apart rest ends]
      cases rest with
      | nil => rfl
      | cons next others =>
          rcases next with ⟨kind, gap, lexeme⟩
          cases kind with
          | punctuator mark => cases mark <;> first | rfl | cases ends
          | _ => cases ends
  | cons token rest =>
      rcases token with ⟨kind, gap, lexeme⟩
      cases kind with
      | identifier word => exact readWord_apart isolates segment rfl
      | number text =>
          exact .of_numberUpTo (segment.tail rfl) fun others _ => rfl
      | string value =>
          exact ⟨.literal (.string value), rest, segment.tail rfl, fun _ _ => rfl⟩
      | character text =>
          exact ⟨.literal (.verbatim text), rest, segment.tail rfl, fun _ _ => rfl⟩
      | interpolated | unknown => exact readUnsupported_apart segment
      | punctuator mark =>
          cases mark with
          | minus => exact readNegative_apart segment rfl
          | openBrace =>
              obtain ⟨entries, behind, isBehind, apart⟩ :=
                readEntries_apart isolates segment rfl
              refine ⟨.initializer entries, behind, isBehind, fun others ends => ?_⟩
              have reads := apart others ends
              simp only [List.cons_append, List.tail_cons] at reads
              simp only [List.cons_append, readPrimary, reads]
          | openBracket =>
              obtain ⟨index, behind, isBehind, apart⟩ := indexUpTo_apart segment rfl
              exact ⟨index, behind, isBehind, fun others ends => apart others ends⟩
          | _ => exact readUnsupported_apart segment

end Whole

/-- The reader that passes over every expression takes the whole of a segment. -/
theorem isolates_passingReader :
    Isolates passingReader := by
  intro tokens segment
  refine ⟨(unsupportedUpTo tokens []).1, fun rest ends => ?_⟩
  have passed : passingReader.read (tokens ++ rest) = unsupportedUpTo (tokens ++ rest) rest := by
    simp only [passingReader, passExpression, fromDelimiter_segment segment ends]
  rw [passed]
  exact unsupportedUpTo_append tokens [] rest

/-- A reader takes the whole of a segment when its inner reader does. -/
theorem isolates_layeredReader
    {inner : Reader Expression}
    (isolates : Isolates inner) :
    Isolates (layeredReader inner) := by
  intro tokens segment
  obtain ⟨left, behind, isBehind, apart⟩ := readPrimary_apart isolates segment
  -- Behind the first part stands a sign with a value, the end of the segment, or something that
  -- is passed over up to that end.
  by_cases assigned : (startsWith .assign behind && left.isAssignable) = true
  · have starts := (Bool.and_eq_true_iff.mp assigned).1
    obtain ⟨value, reads⟩ := isolates behind.tail (isBehind.tail_of_startsWith starts rfl)
    refine ⟨.assignment (textUpTo tokens behind)
      (left.isName && behind.length + 1 == tokens.length) value, fun rest ends => ?_⟩
    have sameLength :
        ((behind ++ rest).length + 1 == (tokens ++ rest).length) =
          (behind.length + 1 == tokens.length) := by
      simp only [List.length_append, Bool.beq_eq_decide_eq, decide_eq_decide]
      omega
    have assignedToo : (startsWith .assign (behind ++ rest) && left.isAssignable) = true := by
      rwa [startsWith_append ends rfl]
    simp only [layeredReader, readOperation, apart rest ends, assignedToo, if_true, sameLength,
      List.tail_append_of_ne_nil (ne_nil_of_startsWith starts), reads rest ends,
      textUpTo_append_append]
  have notAssigned (rest : List Token) (ends : atExpressionEnd rest = true) :
      ¬ (startsWith .assign (behind ++ rest) && left.isAssignable) = true := by
    rwa [startsWith_append ends rfl]
  cases behind with
  | nil =>
      refine ⟨left, fun rest ends => ?_⟩
      simp only [layeredReader, readOperation, apart rest ends]
      rw [if_neg (notAssigned rest ends), List.nil_append, if_pos ends]
  | cons token others =>
      refine ⟨(unsupportedUpTo tokens []).1, fun rest ends => ?_⟩
      have goesOn : ¬ atExpressionEnd (token :: others ++ rest) = true := by
        rw [List.cons_append, atExpressionEnd, isBehind.notDelimiter]
        exact Bool.false_ne_true
      simp only [layeredReader, readOperation, apart rest ends]
      rw [if_neg (notAssigned rest ends), if_neg goesOn, fromDelimiter_segment isBehind ends]
      exact unsupportedUpTo_append tokens [] rest

/-- Expressions take the whole of a segment, whatever room there is. -/
theorem isolates_expressionReader
    (room : Nat) :
    Isolates (expressionReader room) := by
  induction room with
  | zero => exact isolates_passingReader
  | succ room hypothesis => exact isolates_layeredReader hypothesis

/-! ## The entries of a block -/

/-- A comma behind the last segment leaves nothing behind it. -/
theorem Separated.concat_comma
    {segments : List (List Token)}
    {tokens : List Token}
    (separated : Separated segments tokens)
    {comma : Token}
    (isComma : comma.punctuator? = some .comma) :
    Separated (segments ++ [[]]) (tokens ++ [comma]) := by
  induction separated with
  | last => exact .cons isComma .last
  | cons isOther _ hypothesis =>
      simp only [List.cons_append, List.append_assoc]
      exact .cons isOther hypothesis

/-- Nothing behind the last comma is no entry. -/
theorem entrySegments_concat_nil
    (segments : List (List Token)) :
    entrySegments (segments ++ [[]]) = segments := by
  induction segments with
  | nil => rfl
  | cons segment others hypothesis =>
      cases others with
      | nil => rfl
      | cons second more =>
          rw [List.cons_append, List.cons_append, entrySegments, ← List.cons_append, hypothesis]

/-- Segments that have tokens are entries. -/
theorem entrySegments_of_nonempty
    {segments : List (List Token)}
    (nonempty : ∀ segment ∈ segments, segment ≠ []) :
    entrySegments segments = segments := by
  induction segments with
  | nil => rfl
  | cons segment others hypothesis =>
      obtain ⟨filled, othersFilled⟩ := List.forall_mem_cons.mp nonempty
      cases others with
      | nil => rw [entrySegments, List.isEmpty_eq_false_iff.mpr filled, if_neg Bool.false_ne_true]
      | cons second more => rw [entrySegments, hypothesis othersFilled]

/--
A block of segments with commas between them, and perhaps one behind the last, is
read as one entry a segment: what the segment is read as alone, with the same
room.  The block ends behind its closing brace.
-/
theorem readBlock?_separated
    (room : Nat)
    {segments : List (List Token)}
    {body trailing : List Token}
    {opening closing : Token}
    (opens : opening.punctuator? = some .openBrace)
    (closes : closing.punctuator? = some .closeBrace)
    (separated : Separated segments body)
    (areSegments : ∀ segment ∈ segments, segment ≠ [] ∧ IsSegment segment)
    (trails : trailing = [] ∨
      ∃ comma : Token, comma.punctuator? = some .comma ∧ trailing = [comma])
    (rest : List Token) :
    readBlock? (expressionReader room)
        (opening :: (body ++ trailing ++ closing :: rest)) =
      (some (segments.map fun segment => ((expressionReader room).read segment).1), rest) := by
  have isolates := isolates_expressionReader room
  have filled : ∀ segment ∈ segments, segment ≠ [] :=
    fun segment member => (areSegments segment member).1
  have isSegment : ∀ segment ∈ segments, IsSegment segment :=
    fun segment member => (areSegments segment member).2
  have begins : startsWith .openBrace (opening :: (body ++ trailing ++ closing :: rest)) = true :=
    beq_iff_eq.mpr opens
  have entries :
      readEntries (expressionReader room) (body ++ trailing ++ closing :: rest) =
        (segments.map fun segment => ((expressionReader room).read segment).1, rest) := by
    rcases trails with rfl | ⟨comma, isComma, rfl⟩
    · rw [List.append_nil, separated.readEntries isolates isSegment closes,
        entrySegments_of_nonempty filled]
    · have withNothing : ∀ segment ∈ segments ++ [[]], IsSegment segment :=
        List.forall_mem_append.mpr ⟨isSegment, List.forall_mem_singleton.mpr .nil⟩
      rw [(separated.concat_comma isComma).readEntries isolates withNothing closes,
        entrySegments_concat_nil]
  rw [readBlock?, if_pos begins]
  simp only [List.tail_cons, entries]

/-- The tokens of a call with two arguments. -/
def callTokens : List Token :=
  [
    wordToken [] "f".toList, markToken [] .openParenthesis, wordToken [] "a".toList,
    markToken [] .comma, wordToken [' '] "b".toList, markToken [] .closeParenthesis
  ]

/-- The tokens of a sum behind an arrow. -/
def arrowTokens : List Token :=
  [
    wordToken [' '] "x".toList, markToken [' '] .arrow, wordToken [' '] "x".toList,
    markToken [' '] .plus, wordToken [' '] "y".toList
  ]

/-- The arguments of the call are balanced, with a comma between them. -/
theorem isSegment_callTokens :
    IsSegment callTokens := by
  have arguments :
      Balanced true
        [wordToken [] "a".toList, markToken [] .comma, wordToken [' '] "b".toList] :=
    .plain (by decide) (.plain (by decide) (.plain (by decide) .nil))
  have paired : Encloses (markToken [] .openParenthesis) (markToken [] .closeParenthesis) :=
    ⟨.openParenthesis, .closeParenthesis, rfl, rfl, rfl⟩
  exact .plain (by decide) (.group paired arguments .nil)

/-- There is no bracket, comma, semicolon or less-than sign behind the arrow or before it. -/
theorem isSegment_arrowTokens :
    IsSegment arrowTokens :=
  .plain (by decide) (.plain (by decide) (.plain (by decide)
    (.plain (by decide) (.plain (by decide) .nil))))

/-- A call and a sum behind an arrow are read one by one, before a comma at the end. -/
theorem readBlock?_callAndArrow :
    (IsSegment callTokens ∧ IsSegment arrowTokens) ∧
      readBlock? (expressionReader nestingLimit)
          (markToken [] .openBrace ::
            ((callTokens ++ markToken [] .comma :: arrowTokens) ++ [markToken [] .comma] ++
              markToken [' '] .closeBrace :: [markToken [] .semicolon])) =
        (some ([callTokens, arrowTokens].map fun segment =>
            ((expressionReader nestingLimit).read segment).1),
          [markToken [] .semicolon]) := by
  have separated :
      Separated [callTokens, arrowTokens] (callTokens ++ markToken [] .comma :: arrowTokens) :=
    .cons rfl .last
  have areSegments :
      ∀ segment ∈ [callTokens, arrowTokens], segment ≠ [] ∧ IsSegment segment :=
    List.forall_mem_cons.mpr
      ⟨⟨List.cons_ne_nil _ _, isSegment_callTokens⟩,
        List.forall_mem_singleton.mpr ⟨List.cons_ne_nil _ _, isSegment_arrowTokens⟩⟩
  refine ⟨⟨isSegment_callTokens, isSegment_arrowTokens⟩, ?_⟩
  exact readBlock?_separated nestingLimit rfl rfl separated areSegments
    (.inr ⟨markToken [] .comma, rfl, rfl⟩) _

end InitializerJson
