import InitializerJson.Proofs.Expression.InnerPlaces

namespace InitializerJson

open Lexical

/-!
# Tokens and expressions without their formatting

An unformatted token has no gap before it and, unless it is a word, no characters.
Passing over groups, expressions, labels and types depends on the kinds of tokens
alone and therefore leaves the same tokens behind, formatted or not.

What an expression keeps of the formatting are texts from its source.  Without
these texts, unformatted tokens are read as the same expressions.
-/

/-- A token without its gap, and without its characters unless it is a word. -/
def Lexical.Token.unformatted
    (token : Token) :
    Token where
  kind :=
    token.kind
  gap :=
    []
  lexeme :=
    match token.kind with
    | .identifier _ => token.lexeme
    | _ => []

namespace Expression

mutual

/--
An expression without the texts that depend on formatting: those of names, indexes,
callees, types and unknown forms, and of targets that are no single identifier.
-/
def unformatted : Expression → Expression
  | literal value => literal value
  | invocation _ arguments => invocation "" (allUnformatted arguments)
  | creation _ arguments none => creation "" (allUnformatted arguments) none
  | creation _ arguments (some block) =>
      creation "" (allUnformatted arguments) (some (allUnformatted block))
  | targetTypedCreation arguments none => targetTypedCreation (allUnformatted arguments) none
  | targetTypedCreation arguments (some block) =>
      targetTypedCreation (allUnformatted arguments) (some (allUnformatted block))
  | assignment target true value => assignment target true value.unformatted
  | assignment _ false value => assignment "" false value.unformatted
  | initializer entries => initializer (allUnformatted entries)
  | name _ => name ""
  | index _ => index ""
  | unsupported _ => unsupported ""

/-- Some expressions without the texts that depend on formatting. -/
def allUnformatted : List Expression → List Expression
  | [] => []
  | expression :: rest => expression.unformatted :: allUnformatted rest

end

/-- Expressions lose their formatting one by one. -/
theorem allUnformatted_eq_map
    (expressions : List Expression) :
    allUnformatted expressions = expressions.map unformatted := by
  induction expressions with
  | nil => rfl
  | cons expression rest hypothesis => rw [allUnformatted, hypothesis, List.map_cons]

/-- A call without formatting has its arguments without formatting. -/
@[simp] theorem unformatted_invocation
    (callee : String)
    (arguments : List Expression) :
    (invocation callee arguments).unformatted =
      invocation "" (arguments.map unformatted) := by
  rw [unformatted, allUnformatted_eq_map]

/-- A creation without formatting has its parts without formatting. -/
@[simp] theorem unformatted_creation
    (type : String)
    (arguments : List Expression)
    (block : Option (List Expression)) :
    (creation type arguments block).unformatted =
      creation "" (arguments.map unformatted) (block.map (List.map unformatted)) := by
  cases block <;> simp only [unformatted, allUnformatted_eq_map, Option.map]

/-- A target-typed creation without formatting has its parts without formatting. -/
@[simp] theorem unformatted_targetTypedCreation
    (arguments : List Expression)
    (block : Option (List Expression)) :
    (targetTypedCreation arguments block).unformatted =
      targetTypedCreation (arguments.map unformatted) (block.map (List.map unformatted)) := by
  cases block <;> simp only [unformatted, allUnformatted_eq_map, Option.map]

/-- An assignment without formatting keeps its target if that is a single identifier. -/
@[simp] theorem unformatted_assignment
    (target : String)
    (bare : Bool)
    (value : Expression) :
    (assignment target bare value).unformatted =
      assignment (if bare then target else "") bare value.unformatted := by
  cases bare <;> rfl

/-- A block without formatting has its entries without formatting. -/
@[simp] theorem unformatted_initializer
    (entries : List Expression) :
    (initializer entries).unformatted = initializer (entries.map unformatted) := by
  rw [unformatted, allUnformatted_eq_map]

/-- The same expressions may be assigned to. -/
theorem isAssignable_unformatted
    (expression : Expression) :
    expression.unformatted.isAssignable = expression.isAssignable := by
  cases expression with
  | creation _ _ block | targetTypedCreation _ block => cases block <;> rfl
  | assignment _ bare _ => cases bare <;> rfl
  | _ => rfl

/-- The same expressions are names. -/
theorem isName_unformatted
    (expression : Expression) :
    expression.unformatted.isName = expression.isName := by
  cases expression with
  | creation _ _ block | targetTypedCreation _ block => cases block <;> rfl
  | assignment _ bare _ => cases bare <;> rfl
  | _ => rfl

end Expression

/-- What was read as a type, without the text of a type. -/
def DeclaredType.unformatted : DeclaredType → DeclaredType
  | named _ => named ""
  | array => array
  | malformed => malformed

/--
What is read from unformatted tokens is like what is read from the tokens as
written: the same in a view of it, with the same tokens behind.
-/
structure ReadsLike {α β : Type}
    (view : α → β)
    (unformatted written : α × List Token) :
    Prop where
  result : view unformatted.1 = view written.1
  rest : unformatted.2 = written.2.map Token.unformatted

/-! ## Passing over tokens -/

/-- An unformatted token is the same punctuator. -/
@[simp] theorem punctuator?_unformatted
    (token : Token) :
    token.unformatted.punctuator? = token.punctuator? :=
  rfl

/-- An unformatted token may stand in a type as before. -/
@[simp] theorem isTypePart_unformatted
    (token : Token) :
    token.unformatted.isTypePart = token.isTypePart :=
  rfl

/-- An unformatted token opens a group as before. -/
@[simp] theorem isOpener_unformatted
    (token : Token) :
    token.unformatted.isOpener = token.isOpener :=
  rfl

/-- An unformatted token closes a group as before. -/
@[simp] theorem isCloser_unformatted
    (token : Token) :
    token.unformatted.isCloser = token.isCloser :=
  rfl

/-- An unformatted token ends an expression as before. -/
@[simp] theorem isDelimiter_unformatted
    (token : Token) :
    token.unformatted.isDelimiter = token.isDelimiter :=
  rfl

section Passing

variable
  (tokens : List Token)

/-- The same punctuator comes first. -/
@[simp] theorem startsWith_unformatted
    (mark : Punctuator) :
    startsWith mark (tokens.map Token.unformatted) = startsWith mark tokens := by
  cases tokens <;> rfl

/-- The same word comes first. -/
@[simp] theorem firstWord?_unformatted :
    firstWord? (tokens.map Token.unformatted) = firstWord? tokens := by
  cases tokens <;> rfl

/-- An expression ends at the same places. -/
@[simp] theorem atExpressionEnd_unformatted :
    atExpressionEnd (tokens.map Token.unformatted) = atExpressionEnd tokens := by
  cases tokens <;> rfl

/-- A group opens at the same places. -/
@[simp] theorem atOpener_unformatted :
    atOpener (tokens.map Token.unformatted) = atOpener tokens := by
  cases tokens <;> rfl

/-- A qualifier comes first at the same places. -/
@[simp] theorem startsQualifier_unformatted :
    startsQualifier (tokens.map Token.unformatted) = startsQualifier tokens := by
  simp [startsQualifier, ← List.map_tail]

/-- A member comes first at the same places. -/
@[simp] theorem startsMember_unformatted :
    startsMember (tokens.map Token.unformatted) = startsMember tokens := by
  simp [startsMember, ← List.map_tail]

/-- A punctuator is passed over alike. -/
theorem skipOptional_unformatted
    (mark : Punctuator) :
    skipOptional mark (tokens.map Token.unformatted) =
      (skipOptional mark tokens).map Token.unformatted := by
  unfold skipOptional
  rw [startsWith_unformatted]
  split
  · exact List.map_tail.symm
  · rfl

/-- A label is passed over alike. -/
theorem skipLabel_unformatted :
    skipLabel (tokens.map Token.unformatted) = (skipLabel tokens).map Token.unformatted := by
  unfold skipLabel
  rw [firstWord?_unformatted, ← List.map_tail, startsWith_unformatted]
  split
  · exact List.map_tail.symm
  · rfl

/-- A group is passed over alike. -/
theorem afterGroup_unformatted
    (depth : Nat) :
    afterGroup depth (tokens.map Token.unformatted) =
      (afterGroup depth tokens).map Token.unformatted := by
  fun_induction afterGroup depth tokens with
  | case1 => rfl
  | case2 depth token rest opens hypothesis =>
      rw [List.map_cons, afterGroup, isOpener_unformatted, if_pos opens, hypothesis]
  | case3 depth token rest opens closes last =>
      rw [List.map_cons, afterGroup, isOpener_unformatted, if_neg opens, isCloser_unformatted,
        if_pos closes, if_pos last]
  | case4 depth token rest opens closes goesOn hypothesis =>
      rw [List.map_cons, afterGroup, isOpener_unformatted, if_neg opens, isCloser_unformatted,
        if_pos closes, if_neg goesOn, hypothesis]
  | case5 depth token rest opens closes hypothesis =>
      rw [List.map_cons, afterGroup, isOpener_unformatted, if_neg opens, isCloser_unformatted,
        if_neg closes, hypothesis]

/-- An expression is passed over alike. -/
theorem fromDelimiter_unformatted
    (depth : Nat) :
    fromDelimiter depth (tokens.map Token.unformatted) =
      (fromDelimiter depth tokens).map Token.unformatted := by
  fun_induction fromDelimiter depth tokens with
  | case1 => simp [fromDelimiter]
  | case2 token rest ends => simp [fromDelimiter, ends]
  | case3 token rest ends opens hypothesis => simp [fromDelimiter, ends, opens, hypothesis]
  | case4 token rest ends opens hypothesis => simp [fromDelimiter, ends, opens, hypothesis]
  | case5 depth token rest opens hypothesis => simp [fromDelimiter, opens, hypothesis]
  | case6 depth token rest opens closes hypothesis =>
      simp [fromDelimiter, opens, closes, hypothesis]
  | case7 depth token rest opens closes hypothesis =>
      simp [fromDelimiter, opens, closes, hypothesis]

/-- A group that may be absent is passed over alike. -/
theorem skipOptionalGroup_unformatted
    (opener : Punctuator) :
    skipOptionalGroup opener (tokens.map Token.unformatted) =
      (skipOptionalGroup opener tokens).map Token.unformatted := by
  unfold skipOptionalGroup
  rw [startsWith_unformatted]
  split
  · exact afterGroup_unformatted tokens 0
  · rfl

/-! ## Types -/

/-- Type arguments are passed over alike. -/
theorem readTypeArguments_unformatted
    (depth : Nat) :
    readTypeArguments depth (tokens.map Token.unformatted) =
      ((readTypeArguments depth tokens).1,
        (readTypeArguments depth tokens).2.map Token.unformatted) := by
  fun_induction readTypeArguments depth tokens with
  | case1 => rfl
  | case2 depth token rest less hypothesis => simp [readTypeArguments, less, hypothesis]
  | case3 depth token rest less greater last =>
      simp [readTypeArguments, greater, last]
  | case4 depth token rest less greater goesOn hypothesis =>
      simp [readTypeArguments, greater, goesOn, hypothesis]
  | case5 depth token rest less greater part hypothesis =>
      simp [readTypeArguments, less, greater, part, hypothesis]
  | case6 depth token rest less greater noPart =>
      simp [readTypeArguments, less, greater, noPart]

/-- The rest of a type name is passed over alike. -/
theorem readTypeTail_unformatted :
    readTypeTail (tokens.map Token.unformatted) =
      ((readTypeTail tokens).1, (readTypeTail tokens).2.map Token.unformatted) := by
  fun_induction readTypeTail tokens with
  | case1 tokens starts rest reading hypothesis =>
      rw [readTypeTail, dif_pos (by rwa [startsWith_unformatted]),
        readTypeArguments_unformatted, reading]
      exact hypothesis
  | case2 tokens starts rest reading =>
      rw [readTypeTail, dif_pos (by rwa [startsWith_unformatted]),
        readTypeArguments_unformatted, reading]
  | case3 tokens starts qualified hypothesis =>
      rw [readTypeTail, dif_neg (by rwa [startsWith_unformatted]),
        dif_pos (by rwa [startsQualifier_unformatted]), ← List.map_tail, ← List.map_tail,
        hypothesis]
  | case4 tokens starts qualified =>
      rw [readTypeTail, dif_neg (by rwa [startsWith_unformatted]),
        dif_neg (by rwa [startsQualifier_unformatted])]

/-- Array ranks are passed over alike. -/
theorem afterRanks_unformatted :
    afterRanks (tokens.map Token.unformatted) = (afterRanks tokens).map Token.unformatted := by
  fun_induction afterRanks tokens with
  | case1 tokens starts hypothesis =>
      rw [afterRanks, dif_pos (by rwa [startsWith_unformatted]), afterGroup_unformatted,
        hypothesis]
  | case2 tokens starts =>
      rw [afterRanks, dif_neg (by rwa [startsWith_unformatted])]

/-- A declared type is read alike up to its text. -/
theorem readDeclaredType_unformatted :
    ReadsLike DeclaredType.unformatted (readDeclaredType (tokens.map Token.unformatted))
      (readDeclaredType tokens) := by
  unfold readDeclaredType
  rw [firstWord?_unformatted, ← List.map_tail, readTypeTail_unformatted]
  split
  · exact ⟨rfl, rfl⟩
  · rcases readTypeTail tokens.tail with ⟨complete, behind⟩
    cases complete with
    | false => exact ⟨rfl, rfl⟩
    | true =>
        simp only [skipOptional_unformatted, startsWith_unformatted]
        split
        · exact ⟨rfl, afterRanks_unformatted _⟩
        · exact ⟨rfl, rfl⟩

end Passing

end InitializerJson
