import InitializerJson.Proofs.Expression.LiteralReading

namespace InitializerJson

open Lexical Character Expression

/-!
# Lists of expressions are read back

What it takes for an expression to be read back from its text, and how lists of
such expressions are read as arguments and as the entries of a block.
-/

/-- There is no label where no colon stands behind the first token. -/
theorem skipLabel_of_notColon
    {first : Token}
    {others : List Token}
    (notColon : startsWith .colon others = false) :
    skipLabel (first :: others) = first :: others := by
  simp [skipLabel, notColon]

/-- The tokens of an expression behind a gap: they spell its text, and are read as it. -/
structure WrittenExpression
    (gap : List Char)
    (expression : Expression)
    (first : Token)
    (others : List Token) :
    Prop where
  spells : Spells Closes (gap ++ expression.print) (first :: others)
  begins : first.isDelimiter = false
  unlabelled :
    ∀ rest,
      startsWith .colon rest = false →
      skipLabel (first :: (others ++ rest)) = first :: (others ++ rest)
  reads :
    ∀ room rest,
      expression.layers ≤ room →
      atExpressionEnd rest = true →
      (expressionReader room).read (first :: others ++ rest) = (expression, rest)

/-- An expression has tokens behind every gap of spaces. -/
def IsWritten
    (expression : Expression) :
    Prop :=
  ∀ gap, IsSpaces gap → ∃ first others, WrittenExpression gap expression first others

/-- The tokens of expressions with commas between them. -/
inductive WrittenList : List Char → List Expression → List Token → Prop where
  | last
      {gap : List Char}
      {expression : Expression}
      {first : Token}
      {others : List Token} :
      WrittenExpression gap expression first others →
      WrittenList gap [expression] (first :: others)
  | cons
      {gap : List Char}
      {expression : Expression}
      {expressions : List Expression}
      {first : Token}
      {others tokens : List Token} :
      WrittenExpression gap expression first others →
      WrittenList [' '] expressions tokens →
      WrittenList gap (expression :: expressions)
        (first :: (others ++ markToken [] .comma :: tokens))

/-- Expressions that are written one by one are written as a list. -/
theorem exists_writtenList
    {expressions : List Expression}
    (nonempty : expressions ≠ [])
    (written : ∀ expression ∈ expressions, IsWritten expression)
    {gap : List Char}
    (spaces : IsSpaces gap) :
    ∃ tokens, WrittenList gap expressions tokens := by
  induction expressions generalizing gap with
  | nil => exact absurd rfl nonempty
  | cons expression rest hypothesis =>
      obtain ⟨firstWritten, restWritten⟩ := List.forall_mem_cons.mp written
      obtain ⟨first, others, tokens⟩ := firstWritten gap spaces
      cases rest with
      | nil => exact ⟨_, .last tokens⟩
      | cons second more =>
          obtain ⟨_, list⟩ := hypothesis (by simp) restWritten isSpaces_one
          exact ⟨_, .cons tokens list⟩

/-- A comma closes an expression. -/
theorem closes_comma
    (rest : List Char) :
    Closes (',' :: rest) :=
  ⟨',', by decide, rest, rfl⟩

/-- A list is spelled by its tokens. -/
theorem WrittenList.spells
    {gap : List Char}
    {expressions : List Expression}
    {tokens : List Token}
    (written : WrittenList gap expressions tokens) :
    Spells Closes (gap ++ commaSeparated (expressions.map print)) tokens := by
  induction written with
  | last tokens => simpa [commaSeparated] using tokens.spells
  | @cons gap expression expressions first others tokens head list hypothesis =>
      have spells :=
        head.spells.appendMark hypothesis .comma isSpaces_nil (by decide)
          fun rest => closes_comma rest
      cases list <;> simpa [commaSeparated_cons_cons, Punctuator.spelling] using spells

/-- Arguments go on behind a comma. -/
theorem readArgumentList_of_comma
    {inner : Reader Expression}
    {tokens behind : List Token}
    {first : Expression}
    {gap : List Char}
    (reading : inner.read (skipLabel tokens) = (first, markToken gap .comma :: behind)) :
    readArgumentList inner tokens =
      (first :: (readArgumentList inner behind).1, (readArgumentList inner behind).2) := by
  conv => lhs; rw [readArgumentList]
  split
  next known left found =>
    rw [reading] at found
    cases found
    simp

/-- Arguments end at their closing parenthesis. -/
theorem readArgumentList_of_close
    {inner : Reader Expression}
    {tokens rest : List Token}
    {first : Expression}
    {gap : List Char}
    (reading :
      inner.read (skipLabel tokens) = (first, markToken gap .closeParenthesis :: rest)) :
    readArgumentList inner tokens = ([first], rest) := by
  rw [readArgumentList]
  split
  next known left found =>
    rw [reading] at found
    cases found
    simp [skipOptional]

/-- An entry is read where no brace closes the block. -/
theorem notClosed_of_begins
    {token : Token}
    {tokens : List Token}
    (begins : token.isDelimiter = false) :
    startsWith .closeBrace (token :: tokens) = false := by
  rw [startsWith, beq_eq_false_iff_ne]
  intro same
  simp [Token.isDelimiter, same, Punctuator.isDelimiter, Punctuator.isCloser] at begins

/-- Entries go on behind a comma. -/
theorem readEntries_of_comma
    {inner : Reader Expression}
    {token : Token}
    {tokens behind : List Token}
    {first : Expression}
    {gap : List Char}
    (begins : token.isDelimiter = false)
    (reading : inner.read (token :: tokens) = (first, markToken gap .comma :: behind)) :
    readEntries inner (token :: tokens) =
      (first :: (readEntries inner behind).1, (readEntries inner behind).2) := by
  conv => lhs; rw [readEntries]
  simp [notClosed_of_begins begins, reading]

/-- Entries end at their closing brace. -/
theorem readEntries_of_close
    {inner : Reader Expression}
    {token : Token}
    {tokens rest : List Token}
    {first : Expression}
    {gap : List Char}
    (begins : token.isDelimiter = false)
    (reading : inner.read (token :: tokens) = (first, markToken gap .closeBrace :: rest)) :
    readEntries inner (token :: tokens) = ([first], rest) := by
  rw [readEntries]
  simp [notClosed_of_begins begins, reading, skipOptional]

namespace WrittenExpression

variable
  {gap : List Char}
  {expression : Expression}
  {first : Token}
  {others : List Token}

/-- A written expression is read before a mark that ends expressions. -/
theorem read_of_delimiter
    (written : WrittenExpression gap expression first others)
    {mark : Punctuator}
    (ends : mark.isDelimiter = true)
    {room : Nat}
    (enough : expression.layers ≤ room)
    (markGap : List Char)
    (rest : List Token) :
    (expressionReader room).read (first :: (others ++ markToken markGap mark :: rest)) =
      (expression, markToken markGap mark :: rest) :=
  written.reads room _ enough ends

end WrittenExpression

namespace WrittenList

variable
  {gap : List Char}
  {expressions : List Expression}
  {tokens : List Token}

/-- A list of arguments is read up to its closing parenthesis. -/
theorem readArgumentList_eq
    (written : WrittenList gap expressions tokens)
    {room : Nat}
    (enough : layersOfAll expressions ≤ room)
    (rest : List Token) :
    readArgumentList (expressionReader room)
        (tokens ++ markToken [] .closeParenthesis :: rest) =
      (expressions, rest) := by
  induction written with
  | @last gap expression first others head =>
      have layers : expression.layers ≤ room := by
        simpa [layersOfAll] using enough
      apply readArgumentList_of_close
      rw [List.cons_append, head.unlabelled _ rfl]
      exact head.read_of_delimiter rfl layers [] rest
  | @cons gap expression expressions first others tokens head list hypothesis =>
      rw [layersOfAll, Nat.max_le] at enough
      have reading :
          (expressionReader room).read
              (skipLabel (first :: (others ++ markToken [] .comma ::
                (tokens ++ markToken [] .closeParenthesis :: rest)))) =
            (expression, markToken [] .comma ::
              (tokens ++ markToken [] .closeParenthesis :: rest)) := by
        rw [head.unlabelled _ rfl]
        exact head.read_of_delimiter rfl enough.1 [] _
      rw [List.cons_append, List.append_assoc, List.cons_append,
        readArgumentList_of_comma reading, hypothesis enough.2]

/-- A list of entries is read up to its closing brace. -/
theorem readEntries_eq
    (written : WrittenList gap expressions tokens)
    {room : Nat}
    (enough : layersOfAll expressions ≤ room)
    (rest : List Token) :
    readEntries (expressionReader room) (tokens ++ markToken [' '] .closeBrace :: rest) =
      (expressions, rest) := by
  induction written with
  | @last gap expression first others head =>
      have layers : expression.layers ≤ room := by
        simpa [layersOfAll] using enough
      exact readEntries_of_close head.begins (head.read_of_delimiter rfl layers [' '] rest)
  | @cons gap expression expressions first others tokens head list hypothesis =>
      rw [layersOfAll, Nat.max_le] at enough
      have reading :
          (expressionReader room).read
              (first :: (others ++ markToken [] .comma ::
                (tokens ++ markToken [' '] .closeBrace :: rest))) =
            (expression, markToken [] .comma ::
              (tokens ++ markToken [' '] .closeBrace :: rest)) :=
        head.read_of_delimiter rfl enough.1 [] _
      rw [List.cons_append, List.append_assoc, List.cons_append,
        readEntries_of_comma head.begins reading, hypothesis enough.2]

/-- No list begins with a mark that ends expressions. -/
theorem startsWith_delimiter
    (written : WrittenList gap expressions tokens)
    {mark : Punctuator}
    (isDelimiter : mark.isDelimiter = true)
    (rest : List Token) :
    startsWith mark (tokens ++ rest) = false := by
  have begins : ∃ first others, tokens = first :: others ∧ first.isDelimiter = false := by
    cases written with
    | last head => exact ⟨_, _, rfl, head.begins⟩
    | cons head _ => exact ⟨_, _, rfl, head.begins⟩
  obtain ⟨first, others, rfl, notDelimiter⟩ := begins
  rw [List.cons_append, startsWith, beq_eq_false_iff_ne]
  intro same
  simp [Token.isDelimiter, same, isDelimiter] at notDelimiter

end WrittenList

/-- The tokens of arguments behind their opening parenthesis. -/
structure WrittenArguments
    (arguments : List Expression)
    (tokens : List Token) :
    Prop where
  spells :
    Spells Anything (inParentheses (arguments.map print))
      (markToken [] .openParenthesis :: tokens)
  reads :
    ∀ room rest,
      layersOfAll arguments ≤ room →
      readArguments (expressionReader room) (tokens ++ rest) = (arguments, rest)

/-- Arguments that are written one by one are written in their parentheses. -/
theorem exists_writtenArguments
    {arguments : List Expression}
    (written : ∀ argument ∈ arguments, IsWritten argument) :
    ∃ tokens, WrittenArguments arguments tokens := by
  by_cases nonempty : arguments = []
  · subst nonempty
    refine ⟨[markToken [] .closeParenthesis], ?_, ?_⟩
    · exact (spells_nil Anything).enclosed .openParenthesis .closeParenthesis isSpaces_nil
        isSpaces_nil (by decide) (by decide) fun _ => trivial
    · intro room rest _
      simp [readArguments]
  · obtain ⟨tokens, list⟩ := exists_writtenList nonempty written isSpaces_nil
    refine ⟨tokens ++ [markToken [] .closeParenthesis], ?_, ?_⟩
    · exact list.spells.enclosed .openParenthesis .closeParenthesis isSpaces_nil
        isSpaces_nil (by decide) (by decide) fun rest => ⟨')', by decide, rest, rfl⟩
    · intro room rest enough
      have notClosed :
          startsWith .closeParenthesis (tokens ++ ([markToken [] .closeParenthesis] ++ rest)) =
            false :=
        list.startsWith_delimiter rfl _
      rw [readArguments, List.append_assoc, notClosed]
      exact list.readArgumentList_eq enough rest

/-- The tokens of a block behind its opening brace. -/
structure WrittenBlock
    (gap : List Char)
    (entries : List Expression)
    (tokens : List Token) :
    Prop where
  spells :
    Spells Anything (gap ++ inBraces (entries.map print)) (markToken gap .openBrace :: tokens)
  reads :
    ∀ room rest,
      layersOfAll entries ≤ room →
      readEntries (expressionReader room) (tokens ++ rest) = (entries, rest)

/-- Entries that are written one by one are written as a block. -/
theorem exists_writtenBlock
    {entries : List Expression}
    (written : ∀ entry ∈ entries, IsWritten entry)
    {gap : List Char}
    (spaces : IsSpaces gap) :
    ∃ tokens, WrittenBlock gap entries tokens := by
  by_cases nonempty : entries = []
  · subst nonempty
    refine ⟨[markToken [' ', ' '] .closeBrace], ?_, ?_⟩
    · have twoSpaces : IsSpaces [' ', ' '] := by
        simp [IsSpaces]
      have spells :=
        (spells_nil Anything).enclosed .openBrace .closeBrace spaces twoSpaces
          (by decide) (by decide) fun _ => trivial
      simpa [inBraces, commaSeparated, Punctuator.spelling] using spells
    · intro room rest _
      simp [readEntries]
  · obtain ⟨tokens, list⟩ := exists_writtenList nonempty written isSpaces_one
    refine ⟨tokens ++ [markToken [' '] .closeBrace], ?_, ?_⟩
    · have spells :=
        list.spells.enclosed .openBrace .closeBrace spaces isSpaces_one (by decide) (by decide)
          fun rest => ⟨' ', by decide, '}' :: rest, rfl⟩
      simpa [inBraces, Punctuator.spelling] using spells
    · intro room rest enough
      rw [List.append_assoc]
      exact list.readEntries_eq enough rest

end InitializerJson
