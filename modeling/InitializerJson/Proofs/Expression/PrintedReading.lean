import InitializerJson.Proofs.Expression.ListReading
import InitializerJson.Proofs.Expression.TypeReading

namespace InitializerJson

open Lexical Character Expression

/-!
# Printed expressions are read back

Each kind of canonical expression is read back from its text when its parts are.
By induction every canonical expression is, as long as its layers do not run out.
-/

/-- Without an operator behind it, an expression is what its first part is. -/
theorem read_of_readPrimary
    {room : Nat}
    {tokens rest : List Token}
    {expression : Expression}
    (primary : readPrimary (expressionReader room) tokens = (expression, rest))
    (ends : atExpressionEnd rest = true) :
    (expressionReader (room + 1)).read tokens = (expression, rest) := by
  have noSign : startsWith .assign rest = false :=
    startsWith_of_atExpressionEnd ends rfl
  change readOperation (expressionReader room) tokens = (expression, rest)
  simp [readOperation, primary, noSign, ends]

/-- An expression that is read without operators is read where expressions end. -/
theorem reads_of_readPrimary
    {expression : Expression}
    {tokens : List Token}
    (primary :
      ∀ room rest,
        expression.layers ≤ room + 1 →
        atExpressionEnd rest = true →
        readPrimary (expressionReader room) (tokens ++ rest) = (expression, rest))
    (room : Nat)
    (rest : List Token)
    (enough : expression.layers ≤ room)
    (ends : atExpressionEnd rest = true) :
    (expressionReader room).read (tokens ++ rest) = (expression, rest) := by
  cases room with
  | zero =>
      have positive := expression.layers_pos
      omega
  | succ room => exact read_of_readPrimary (primary room rest enough ends) ends

/-- Literals are written. -/
theorem isWritten_literal
    {value : Literal}
    (canonical : value.IsCanonical) :
    IsWritten (.literal value) := by
  intro gap spaces
  obtain ⟨first, others, written⟩ := canonical.exists_written spaces
  exact ⟨first, others,
    { spells := written.spells
      begins := (written.inert first (by simp)).2.2
      unlabelled := fun rest other => skipLabel_of_notColon (written.unlabelled rest other)
      reads :=
        reads_of_readPrimary fun room rest _ ends =>
          written.reads (expressionReader room) rest ends }⟩

/-- Names are written. -/
theorem isWritten_name
    {bare : Bool}
    {text : String}
    (chain : ChainText bare text.toList) :
    IsWritten (.name text) := by
  intro gap spaces
  obtain ⟨word, others, written⟩ := chain.exists_written spaces
  refine ⟨wordToken gap word, others,
    { spells := written.spells.weaken fun rest closes => closes.endsRun (by decide)
      begins := rfl
      unlabelled := fun rest other => skipLabel_of_notColon (written.unlabelled rest other)
      reads := reads_of_readPrimary ?_ }⟩
  intro room rest _ ends
  rw [written.readPrimary_eq,
    readChain_of_end (startsMember_of_atExpressionEnd ends)
      (startsWith_of_atExpressionEnd ends rfl) (startsWith_of_atExpressionEnd ends rfl),
    ChainEnd.toExpression, textUpTo_append, written.sourceText_eq, String.ofList_toList]

/-- Calls are written when their arguments are. -/
theorem isWritten_invocation
    {bare : Bool}
    {callee : String}
    {arguments : List Expression}
    (chain : ChainText bare callee.toList)
    (argumentsWritten : ∀ argument ∈ arguments, IsWritten argument) :
    IsWritten (.invocation callee arguments) := by
  intro gap spaces
  obtain ⟨word, others, written⟩ := chain.exists_written spaces
  obtain ⟨tokens, group⟩ := exists_writtenArguments argumentsWritten
  refine ⟨wordToken gap word, others ++ markToken [] .openParenthesis :: tokens,
    { spells := ?_
      begins := rfl
      unlabelled := ?_
      reads := reads_of_readPrimary ?_ }⟩
  · have spells := written.spells.append group.spells fun _ _ => endsRun_cons (by decide)
    simpa [print, printAll_eq_map] using spells.anywhere Closes
  · intro rest _
    apply skipLabel_of_notColon
    rw [List.append_assoc]
    exact written.unlabelled _ (by simp)
  · intro room rest enough ends
    have layers : layersOfAll arguments ≤ room := by
      simpa [Expression.layers] using enough
    have argumentsRead := group.reads room rest layers
    have calleeText :
        textUpTo
            (wordToken gap word :: others ++ markToken [] .openParenthesis :: (tokens ++ rest))
            (markToken [] .openParenthesis :: (tokens ++ rest)) =
          callee := by
      rw [textUpTo_append, written.sourceText_eq, String.ofList_toList]
    have shape :
        wordToken gap word :: (others ++ markToken [] .openParenthesis :: tokens) ++ rest =
          wordToken gap word :: others ++ markToken [] .openParenthesis :: (tokens ++ rest) := by
      simp
    rw [shape, written.readPrimary_eq, readChain_of_call argumentsRead,
      readChain_of_end (startsMember_of_atExpressionEnd ends)
        (startsWith_of_atExpressionEnd ends rfl) (startsWith_of_atExpressionEnd ends rfl),
      ChainEnd.toExpression, calleeText]

/-- Blocks that stand by themselves are written when their entries are. -/
theorem isWritten_initializer
    {entries : List Expression}
    (entriesWritten : ∀ entry ∈ entries, IsWritten entry) :
    IsWritten (.initializer entries) := by
  intro gap spaces
  obtain ⟨tokens, block⟩ := exists_writtenBlock entriesWritten spaces
  refine ⟨markToken gap .openBrace, tokens,
    { spells := ?_
      begins := rfl
      unlabelled := fun _ _ => rfl
      reads := reads_of_readPrimary ?_ }⟩
  · simpa [print, printAll_eq_map] using block.spells.anywhere Closes
  · intro room rest enough _
    have layers : layersOfAll entries ≤ room := by
      simpa [Expression.layers] using enough
    have reading := block.reads room rest layers
    simp [readPrimary, markToken, reading]

/-- The tokens of a block that may be absent. -/
structure WrittenOptionalBlock
    (block : Option (List Expression))
    (tokens : List Token) :
    Prop where
  spells : Spells Closes (printBlock block) tokens
  reads :
    ∀ room rest,
      layersOfBlock block ≤ room →
      atExpressionEnd rest = true →
      readBlock? (expressionReader room) (tokens ++ rest) = (block, rest)

/-- A block that may be absent is written when its entries are. -/
theorem exists_writtenOptionalBlock
    {block : Option (List Expression)}
    (written : ∀ entries, block = some entries → ∀ entry ∈ entries, IsWritten entry) :
    ∃ tokens, WrittenOptionalBlock block tokens := by
  cases block with
  | none =>
      refine ⟨[], spells_nil Closes, ?_⟩
      intro room rest _ ends
      have noBrace : startsWith .openBrace rest = false :=
        startsWith_of_atExpressionEnd ends rfl
      simp [readBlock?, noBrace]
  | some entries =>
      obtain ⟨tokens, block⟩ := exists_writtenBlock (written entries rfl) isSpaces_one
      refine ⟨markToken [' '] .openBrace :: tokens, ?_, ?_⟩
      · simpa [printBlock, printAll_eq_map] using block.spells.anywhere Closes
      · intro room rest enough _
        simp [readBlock?, block.reads room rest enough]

/-- The reserved word of a creation is spelled by its token. -/
theorem spells_new
    {gap : List Char}
    (spaces : IsSpaces gap) :
    Spells (EndsRun continuesIdentifier) (gap ++ ['n', 'e', 'w'])
      [wordToken gap ['n', 'e', 'w']] :=
  spells_word spaces (by decide)

/-- Creations whose type is left to their context are written when their parts are. -/
theorem isWritten_targetTypedCreation
    {arguments : List Expression}
    {block : Option (List Expression)}
    (argumentsWritten : ∀ argument ∈ arguments, IsWritten argument)
    (blockWritten : ∀ entries, block = some entries → ∀ entry ∈ entries, IsWritten entry) :
    IsWritten (.targetTypedCreation arguments block) := by
  intro gap spaces
  obtain ⟨tokens, group⟩ := exists_writtenArguments argumentsWritten
  obtain ⟨blockTokens, tail⟩ := exists_writtenOptionalBlock blockWritten
  refine ⟨wordToken gap ['n', 'e', 'w'],
    markToken [] .openParenthesis :: (tokens ++ blockTokens),
    { spells := ?_
      begins := rfl
      unlabelled := fun _ _ => rfl
      reads := reads_of_readPrimary ?_ }⟩
  · have behind := group.spells.append tail.spells fun _ _ => trivial
    have spells := (spells_new spaces).append behind fun _ _ => endsRun_cons (by decide)
    simpa [print, printAll_eq_map] using spells
  · intro room rest enough ends
    rw [Expression.layers, Nat.add_le_add_iff_right, Nat.max_le] at enough
    have argumentsRead := group.reads room (blockTokens ++ rest) enough.1
    have blockRead := tail.reads room rest enough.2 ends
    have created :
        readCreation (expressionReader room)
            (wordToken gap ['n', 'e', 'w'] :: markToken [] .openParenthesis ::
              (tokens ++ (blockTokens ++ rest))) =
          (.targetTypedCreation arguments block, rest) := by
      simp [readCreation, argumentsRead, blockRead]
    rw [List.cons_append, List.cons_append, List.append_assoc]
    exact created

/-- What stands behind the type of a creation: a mark, and the tokens behind it. -/
structure WrittenCreationTail
    (arguments : List Expression)
    (block : Option (List Expression))
    (gap : List Char)
    (mark : Punctuator)
    (tokens : List Token) :
    Prop where
  stops : mark = .openParenthesis ∨ mark = .openBrace
  spells :
    Spells Closes (printArguments block.isSome (arguments.map print) ++ printBlock block)
      (markToken gap mark :: tokens)
  behindType :
    ∀ rest,
      EndsRun continuesType
        (printArguments block.isSome (arguments.map print) ++ printBlock block ++ rest)
  reads :
    ∀ room rest,
      layersOfAll arguments ≤ room →
      layersOfBlock block ≤ room →
      atExpressionEnd rest = true →
      ∃ middle,
        readOptionalArguments (expressionReader room) (markToken gap mark :: (tokens ++ rest)) =
            (arguments, middle) ∧
          readBlock? (expressionReader room) middle = (block, rest)

/-- What stands behind the type of a creation is written when its parts are. -/
theorem exists_writtenCreationTail
    {arguments : List Expression}
    {block : Option (List Expression)}
    (argumentsWritten : ∀ argument ∈ arguments, IsWritten argument)
    (blockWritten : ∀ entries, block = some entries → ∀ entry ∈ entries, IsWritten entry) :
    ∃ gap mark tokens, WrittenCreationTail arguments block gap mark tokens := by
  by_cases omitted : block.isSome = true ∧ arguments = []
  · obtain ⟨isSome, rfl⟩ := omitted
    obtain ⟨entries, rfl⟩ := Option.isSome_iff_exists.mp isSome
    obtain ⟨tokens, written⟩ := exists_writtenBlock (blockWritten entries rfl) isSpaces_one
    refine ⟨[' '], .openBrace, tokens, .inr rfl, ?_, ?_, ?_⟩
    · simpa [printArguments, printBlock, printAll_eq_map] using written.spells.anywhere Closes
    · intro rest
      exact endsRun_cons (by decide)
    · intro room rest _ enough _
      refine ⟨markToken [' '] .openBrace :: (tokens ++ rest), ?_, ?_⟩
      · simp [readOptionalArguments]
      · simp [readBlock?, written.reads _ rest enough]
  · have shown : printArguments block.isSome (arguments.map print) =
        inParentheses (arguments.map print) := by
      rw [printArguments, if_neg]
      simpa using omitted
    obtain ⟨tokens, group⟩ := exists_writtenArguments argumentsWritten
    obtain ⟨blockTokens, tail⟩ := exists_writtenOptionalBlock blockWritten
    refine ⟨[], .openParenthesis, tokens ++ blockTokens, .inl rfl, ?_, ?_, ?_⟩
    · rw [shown]
      exact group.spells.append tail.spells fun _ _ => trivial
    · intro rest
      rw [shown]
      exact endsRun_cons (by decide)
    · intro room rest enough blockEnough ends
      refine ⟨blockTokens ++ rest, ?_, tail.reads room rest blockEnough ends⟩
      simp [readOptionalArguments, group.reads room (blockTokens ++ rest) enough]

/-- The tokens of a creation that names its type, behind its reserved word. -/
structure WrittenCreation
    (gap : List Char)
    (type : String)
    (arguments : List Expression)
    (block : Option (List Expression))
    (others : List Token) :
    Prop where
  spells :
    Spells Closes (gap ++ (Expression.creation type arguments block).print)
      (wordToken gap ['n', 'e', 'w'] :: others)
  unlabelled : ∀ rest, startsWith .colon (others ++ rest) = false
  declares : ∀ rest, (readDeclaredType (others ++ rest)).1 = .named type
  creates :
    ∀ room rest,
      (Expression.creation type arguments block).layers ≤ room + 1 →
      atExpressionEnd rest = true →
      readCreation (expressionReader room) (wordToken gap ['n', 'e', 'w'] :: (others ++ rest)) =
        (.creation type arguments block, rest)

/-- Creations that name their type have tokens when their parts are written. -/
theorem exists_writtenCreation
    {type : String}
    {arguments : List Expression}
    {block : Option (List Expression)}
    (isType : TypeText .alone type.toList)
    (argumentsWritten : ∀ argument ∈ arguments, IsWritten argument)
    (blockWritten : ∀ entries, block = some entries → ∀ entry ∈ entries, IsWritten entry)
    {gap : List Char}
    (spaces : IsSpaces gap) :
    ∃ others, WrittenCreation gap type arguments block others := by
  obtain ⟨first, others, named⟩ := isType.exists_written [' '] isSpaces_one
  obtain ⟨word, rfl⟩ := named.exists_word
  obtain ⟨tailGap, mark, tokens, tail⟩ :=
    exists_writtenCreationTail argumentsWritten blockWritten
  have shape :
      ∀ rest,
        wordToken [' '] word :: (others ++ markToken tailGap mark :: tokens) ++ rest =
          wordToken [' '] word :: (others ++ markToken tailGap mark :: (tokens ++ rest)) := by
    simp
  have typeRead := named.readDeclaredType_eq tail.stops tailGap
  refine ⟨wordToken [' '] word :: (others ++ markToken tailGap mark :: tokens), ?_,
    fun _ => rfl, ?_, ?_⟩
  · have behind := named.spells.append tail.spells fun rest _ => tail.behindType rest
    have spells := (spells_new spaces).append behind fun _ _ => endsRun_cons (by decide)
    simpa [print, printAll_eq_map] using spells
  · intro rest
    rw [shape, typeRead, String.ofList_toList]
  · intro room rest enough ends
    rw [Expression.layers, Nat.add_le_add_iff_right, Nat.max_le] at enough
    obtain ⟨middle, argumentsRead, blockRead⟩ := tail.reads room rest enough.1 enough.2 ends
    rw [shape]
    simp [readCreation, typeRead, argumentsRead, blockRead]

/-- Creations that name their type are written when their parts are. -/
theorem isWritten_creation
    {type : String}
    {arguments : List Expression}
    {block : Option (List Expression)}
    (isType : TypeText .alone type.toList)
    (argumentsWritten : ∀ argument ∈ arguments, IsWritten argument)
    (blockWritten : ∀ entries, block = some entries → ∀ entry ∈ entries, IsWritten entry) :
    IsWritten (.creation type arguments block) := by
  intro gap spaces
  obtain ⟨others, written⟩ :=
    exists_writtenCreation isType argumentsWritten blockWritten spaces
  exact ⟨_, others,
    { spells := written.spells
      begins := rfl
      unlabelled := fun rest _ => skipLabel_of_notColon (written.unlabelled rest)
      reads := reads_of_readPrimary written.creates }⟩

/-- The tokens of what is assigned to. -/
structure WrittenTarget
    (gap : List Char)
    (target : String)
    (bare : Bool)
    (first : Token)
    (others : List Token) :
    Prop where
  spells : Spells (EndsRun continuesIdentifier) (gap ++ target.toList) (first :: others)
  firstGap : first.gap = gap
  begins : first.isDelimiter = false
  unlabelled :
    ∀ rest,
      startsWith .colon rest = false →
      skipLabel (first :: (others ++ rest)) = first :: (others ++ rest)
  reads :
    ∀ inner signGap rest,
      ∃ left,
        readPrimary inner (first :: others ++ markToken signGap .assign :: rest) =
            (left, markToken signGap .assign :: rest) ∧
          left.isAssignable = true ∧
          (left.isName && others.isEmpty) = bare

/-- What is behind the sign of an assignment is its value. -/
theorem readOperation_of_assign
    {inner : Reader Expression}
    {first : Token}
    {others behind rest : List Token}
    {left value : Expression}
    {gap : List Char}
    (primary :
      readPrimary inner (first :: others ++ markToken gap .assign :: behind) =
        (left, markToken gap .assign :: behind))
    (assignable : left.isAssignable = true)
    (valueRead : inner.read behind = (value, rest)) :
    readOperation inner (first :: others ++ markToken gap .assign :: behind) =
      (.assignment (sourceText (first :: others)) (left.isName && others.isEmpty) value,
        rest) := by
  have alone :
      ((markToken gap .assign :: behind).length + 1 ==
          (first :: others ++ markToken gap .assign :: behind).length) =
        others.isEmpty := by
    cases others with
    | nil => simp
    | cons second more =>
        simp only [List.length_append, List.length_cons, List.isEmpty_cons,
          beq_eq_false_iff_ne]
        omega
  rw [readOperation, primary]
  simp only [startsWith_markToken, decide_true, assignable, Bool.and_self, ↓reduceIte,
    List.tail_cons, valueRead, alone, textUpTo_append]

/-- Assignments are written when their target and value are. -/
theorem isWritten_assignment
    {target : String}
    {bare : Bool}
    {value : Expression}
    (targetWritten :
      ∀ gap, IsSpaces gap → ∃ first others, WrittenTarget gap target bare first others)
    (valueWritten : IsWritten value) :
    IsWritten (.assignment target bare value) := by
  intro gap spaces
  obtain ⟨first, others, left⟩ := targetWritten gap spaces
  obtain ⟨valueFirst, valueOthers, right⟩ := valueWritten [' '] isSpaces_one
  refine ⟨first, others ++ markToken [' '] .assign :: valueFirst :: valueOthers,
    { spells := ?_
      begins := left.begins
      unlabelled := ?_
      reads := ?_ }⟩
  · have sign : Spells (EndsRun fun character => character == '=' || character == '>')
        ([' '] ++ ['=']) [markToken [' '] .assign] :=
      spells_mark_of_endsRun .assign isSpaces_one (by decide) (by decide) (by decide)
    have behind := sign.append right.spells fun _ _ => endsRun_cons (by decide)
    have spells := left.spells.append behind fun _ _ => endsRun_cons (by decide)
    simpa [print] using spells
  · intro rest _
    rw [List.append_assoc]
    exact left.unlabelled _ (by simp)
  · intro room rest enough ends
    cases room with
    | zero => simp [Expression.layers] at enough
    | succ room =>
        have layers : value.layers ≤ room := by
          simpa [Expression.layers] using enough
        have valueRead := right.reads room rest layers ends
        obtain ⟨known, primary, assignable, isBare⟩ :=
          left.reads (expressionReader room) [' '] (valueFirst :: valueOthers ++ rest)
        have shape :
            first :: (others ++ markToken [' '] .assign :: valueFirst :: valueOthers) ++ rest =
              first :: others ++
                markToken [' '] .assign :: (valueFirst :: valueOthers ++ rest) := by
          simp
        have targetText : sourceText (first :: others) = target := by
          have spelled := left.spells.spelled
          rw [← left.firstGap] at spelled
          rw [sourceText_of_spelling spelled, String.ofList_toList]
        have read := readOperation_of_assign primary assignable valueRead
        rw [targetText, isBare] at read
        rw [shape]
        exact read

/-- Chains may be assigned to. -/
theorem ChainText.exists_target
    {bare : Bool}
    {target : String}
    (chain : ChainText bare target.toList)
    (gap : List Char)
    (spaces : IsSpaces gap) :
    ∃ first others, WrittenTarget gap target bare first others := by
  obtain ⟨word, others, written⟩ := chain.exists_written spaces
  refine ⟨wordToken gap word, others,
    { spells := written.spells
      firstGap := rfl
      begins := rfl
      unlabelled := fun rest other => skipLabel_of_notColon (written.unlabelled rest other)
      reads := ?_ }⟩
  intro inner signGap rest
  have noMember : startsMember (markToken signGap .assign :: rest) = false := by
    simp [startsMember]
  refine ⟨.name (sourceText (wordToken gap word :: others)), ?_, rfl, ?_⟩
  · rw [written.readPrimary_eq, readChain_of_end noMember (by simp) (by simp),
      ChainEnd.toExpression, textUpTo_append]
  · simp [written.isBare, Expression.isName]

/-- Tokens without brackets are passed over inside a group. -/
theorem afterGroup_append
    {tokens : List Token}
    (inert : ∀ token ∈ tokens, token.isOpener = false ∧ token.isCloser = false)
    (depth : Nat)
    (rest : List Token) :
    afterGroup depth (tokens ++ rest) = afterGroup depth rest := by
  induction tokens with
  | nil => rfl
  | cons token tokens hypothesis =>
      obtain ⟨⟨notOpener, notCloser⟩, others⟩ := List.forall_mem_cons.mp inert
      rw [List.cons_append, afterGroup]
      simp only [notOpener, notCloser, Bool.false_eq_true, ↓reduceIte]
      exact hypothesis others

/-- A bracket that opens an expression is the index up to its closing bracket. -/
theorem readPrimary_of_openBracket
    (inner : Reader Expression)
    (gap : List Char)
    (tokens : List Token) :
    readPrimary inner (markToken gap .openBracket :: tokens) =
      (.index (textUpTo (markToken gap .openBracket :: tokens)
          (afterGroup 0 (markToken gap .openBracket :: tokens))),
        afterGroup 0 (markToken gap .openBracket :: tokens)) := by
  rfl

/-- Literals in brackets may be assigned to. -/
theorem Literal.IsCanonical.exists_target
    {literal : Literal}
    {target : String}
    (canonical : literal.IsCanonical)
    (spelled : target.toList = '[' :: (literal.print ++ [']']))
    (gap : List Char)
    (spaces : IsSpaces gap) :
    ∃ first others, WrittenTarget gap target false first others := by
  obtain ⟨first, others, written⟩ := canonical.exists_written isSpaces_nil
  refine ⟨markToken gap .openBracket, first :: others ++ [markToken [] .closeBracket],
    { spells := ?_
      firstGap := rfl
      begins := rfl
      unlabelled := fun _ _ => rfl
      reads := ?_ }⟩
  · have spells :=
      written.spells.enclosed .openBracket .closeBracket spaces isSpaces_nil (by decide)
        (by decide) fun rest => ⟨']', by decide, rest, rfl⟩
    rw [spelled]
    simpa [Punctuator.spelling] using spells.anywhere (EndsRun continuesIdentifier)
  · intro inner signGap rest
    have inert : ∀ token ∈ first :: others, token.isOpener = false ∧ token.isCloser = false :=
      fun token member => ⟨(written.inert token member).1, (written.inert token member).2.1⟩
    have behind :
        afterGroup 0 (markToken gap .openBracket ::
          (first :: others ++
            (markToken [] .closeBracket :: markToken signGap .assign :: rest))) =
            markToken signGap .assign :: rest := by
      rw [afterGroup]
      have opens : (markToken gap .openBracket).isOpener = true := rfl
      have closes : (markToken [] .closeBracket).isCloser = true := rfl
      have notOpener : (markToken [] .closeBracket).isOpener = false := rfl
      simp only [opens, ↓reduceIte]
      rw [afterGroup_append inert, afterGroup]
      simp [closes, notOpener]
    have shape :
        markToken gap .openBracket :: (first :: others ++ [markToken [] .closeBracket]) ++
            markToken signGap .assign :: rest =
          markToken gap .openBracket ::
            (first :: others ++
              (markToken [] .closeBracket :: markToken signGap .assign :: rest)) := by
      simp
    have primary :=
      readPrimary_of_openBracket inner gap
        (first :: others ++
          (markToken [] .closeBracket :: markToken signGap .assign :: rest))
    rw [behind] at primary
    rw [shape]
    exact ⟨_, primary, rfl, rfl⟩

/-- Every canonical expression is written. -/
theorem Expression.Canonical.isWritten
    {expression : Expression}
    (canonical : expression.Canonical) :
    IsWritten expression := by
  induction canonical with
  | literal isCanonical => exact isWritten_literal isCanonical
  | name chain => exact isWritten_name chain
  | invocation chain _ arguments => exact isWritten_invocation chain arguments
  | creation type _ _ arguments block => exact isWritten_creation type arguments block
  | targetTypedCreation _ _ arguments block =>
      exact isWritten_targetTypedCreation arguments block
  | initializer _ entries => exact isWritten_initializer entries
  | assignment chain _ value => exact isWritten_assignment chain.exists_target value
  | indexAssignment isCanonical spelled _ value =>
      exact isWritten_assignment (isCanonical.exists_target spelled) value

end InitializerJson
