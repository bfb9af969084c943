import InitializerJson.Expression.DeclaredType
import InitializerJson.Proofs.Expression.Groups
import InitializerJson.Proofs.Expression.WrittenTokens

namespace InitializerJson

open Lexical

/-!
# Types as tokens

The tokens of types, whatever the gaps between them.  Reading goes over all that stands
behind the first word of a name, and among the arguments of another type the tokens of a
type leave the number of open angle brackets as it is.
-/

/-- The parts of types. -/
inductive TypeRole where
  /-- Words joined by dots and double colons, with type arguments behind some of them. -/
  | name
  /-- A name, a tuple or an array: a question mark may follow. -/
  | operand
  /-- A type that may be nullable, as it stands among the arguments of another one. -/
  | argument
  /-- A type among others, which may have a name if they are the items of a tuple. -/
  | item (named : Bool)
  /-- Types with commas between them. -/
  | items (named : Bool)

/-- The tokens of the parts of types; the items of a tuple may have `labels` for names. -/
inductive IsType
    (labels : Token → Prop) :
    TypeRole → List Token → Prop where
  | word
      {token : Token}
      (isWord : token.word?.isSome) :
      IsType labels .name [token]
  | qualified
      {qualifier : List Token}
      {mark token : Token}
      (head : IsType labels .name qualifier)
      (qualifies : mark.punctuator? = some .dot ∨ mark.punctuator? = some .scope)
      (isWord : token.word?.isSome) :
      IsType labels .name (qualifier ++ [mark, token])
  | generic
      {name inside : List Token}
      {opening closing : Token}
      (head : IsType labels .name name)
      (opens : opening.punctuator? = some .less)
      (arguments : IsType labels (.items false) inside)
      (closes : closing.punctuator? = some .greater) :
      IsType labels .name (name ++ opening :: (inside ++ [closing]))
  | named
      {tokens : List Token}
      (type : IsType labels .name tokens) :
      IsType labels .operand tokens
  | tuple
      {inside : List Token}
      {opening closing : Token}
      (opens : opening.punctuator? = some .openParenthesis)
      (parts : IsType labels (.items true) inside)
      (closes : closing.punctuator? = some .closeParenthesis) :
      IsType labels .operand (opening :: (inside ++ [closing]))
  | array
      {element commas : List Token}
      {opening closing : Token}
      (type : IsType labels .argument element)
      (opens : opening.punctuator? = some .openBracket)
      (areCommas : ∀ comma ∈ commas, comma.punctuator? = some .comma)
      (closes : closing.punctuator? = some .closeBracket) :
      IsType labels .operand (element ++ opening :: (commas ++ [closing]))
  | plain
      {tokens : List Token}
      (type : IsType labels .operand tokens) :
      IsType labels .argument tokens
  | nullable
      {tokens : List Token}
      {mark : Token}
      (type : IsType labels .operand tokens)
      (question : mark.punctuator? = some .question) :
      IsType labels .argument (tokens ++ [mark])
  | unlabelled
      {named : Bool}
      {tokens : List Token}
      (type : IsType labels .argument tokens) :
      IsType labels (.item named) tokens
  | labelled
      {tokens : List Token}
      {label : Token}
      (type : IsType labels .argument tokens)
      (isWord : label.word?.isSome)
      (admitted : labels label) :
      IsType labels (.item true) (tokens ++ [label])
  | single
      {named : Bool}
      {tokens : List Token}
      (item : IsType labels (.item named) tokens) :
      IsType labels (.items named) tokens
  | several
      {named : Bool}
      {tokens others : List Token}
      {comma : Token}
      (item : IsType labels (.item named) tokens)
      (isComma : comma.punctuator? = some .comma)
      (more : IsType labels (.items named) others) :
      IsType labels (.items named) (tokens ++ comma :: others)

/-- The types that creations name: one question mark may stand behind the name. -/
inductive IsCreatedType
    (labels : Token → Prop) :
    List Token → Prop where
  | name
      {tokens : List Token}
      (type : IsType labels .name tokens) :
      IsCreatedType labels tokens
  | nullable
      {tokens : List Token}
      {mark : Token}
      (type : IsType labels .name tokens)
      (question : mark.punctuator? = some .question) :
      IsCreatedType labels (tokens ++ [mark])

/-- Some tokens leave the number of open angle brackets as it is. -/
def IsBalanced
    (tokens : List Token) :
    Prop :=
  ∀ depth rest,
    readTypeArguments (depth + 1) (tokens ++ rest) = readTypeArguments (depth + 1) rest

/-! ## Angle brackets -/

section Angles

variable
  {tokens : List Token}
  {token opening closing : Token}

/-- A word may stand among type arguments. -/
theorem isTypePart_of_word
    (isWord : token.word?.isSome) :
    token.isTypePart = true := by
  rcases token with ⟨kind, gap, lexeme⟩
  cases kind with
  | identifier word => rfl
  | _ => cases isWord

/-- A mark that joins types may stand among type arguments. -/
theorem isTypePart_of_mark
    {mark : Punctuator}
    (isMark : token.punctuator? = some mark)
    (joins : mark.joinsTypes = true) :
    token.isTypePart = true := by
  rcases token with ⟨kind, gap, lexeme⟩
  cases kind with
  | punctuator known =>
      cases isMark
      exact joins
  | _ => cases isMark

/-- A mark that joins no types is no part of one. -/
theorem punctuator?_ne_of_isTypePart
    (isPart : token.isTypePart = true)
    (mark : Punctuator)
    (notJoining : mark.joinsTypes = false) :
    token.punctuator? ≠ some mark := by
  intro isMark
  rcases token with ⟨kind, gap, lexeme⟩
  cases kind with
  | punctuator known =>
      cases isMark
      have joins : mark.joinsTypes = true := isPart
      rw [notJoining] at joins
      cases joins
  | _ => cases isMark

/-- No tokens are balanced. -/
theorem isBalanced_nil :
    IsBalanced [] :=
  fun _ _ => rfl

/-- Balanced tokens may follow each other. -/
theorem IsBalanced.append
    {others : List Token}
    (first : IsBalanced tokens)
    (second : IsBalanced others) :
    IsBalanced (tokens ++ others) := by
  intro depth rest
  rw [List.append_assoc, first, second]

/-- A part of a type is balanced. -/
theorem isBalanced_part
    (isPart : token.isTypePart = true) :
    IsBalanced [token] := by
  intro depth rest
  have notLess := punctuator?_ne_of_isTypePart isPart .less rfl
  have notGreater := punctuator?_ne_of_isTypePart isPart .greater rfl
  rw [List.singleton_append, readTypeArguments, if_neg notLess, if_neg notGreater, if_pos isPart]

/-- Parts of types are balanced as they follow each other. -/
theorem isBalanced_parts
    (areParts : ∀ token ∈ tokens, token.isTypePart = true) :
    IsBalanced tokens := by
  induction tokens with
  | nil => exact isBalanced_nil
  | cons token tokens hypothesis =>
      obtain ⟨isPart, others⟩ := List.forall_mem_cons.mp areParts
      exact (isBalanced_part isPart).append (hypothesis others)

/-- Balanced tokens in angle brackets are balanced. -/
theorem IsBalanced.inAngles
    (balanced : IsBalanced tokens)
    (opens : opening.punctuator? = some .less)
    (closes : closing.punctuator? = some .greater) :
    IsBalanced (opening :: (tokens ++ [closing])) := by
  intro depth rest
  rw [List.cons_append, readTypeArguments, if_pos opens, List.append_assoc, balanced (depth + 1),
    List.singleton_append, readTypeArguments]
  simp [closes]

/-- Balanced tokens in angle brackets are type arguments as a whole. -/
theorem IsBalanced.readTypeArguments_eq
    (balanced : IsBalanced tokens)
    (opens : opening.punctuator? = some .less)
    (closes : closing.punctuator? = some .greater)
    (rest : List Token) :
    readTypeArguments 0 (opening :: (tokens ++ closing :: rest)) = (true, rest) := by
  rw [readTypeArguments, if_pos opens, balanced 0, readTypeArguments]
  simp [closes]

/-- The name of a type goes on behind a mark and a word. -/
theorem readTypeTail_qualified
    (qualifies : opening.punctuator? = some .dot ∨ opening.punctuator? = some .scope)
    (isWord : token.word?.isSome)
    (rest : List Token) :
    readTypeTail (opening :: token :: rest) = readTypeTail rest := by
  rw [readTypeTail]
  rcases qualifies with dot | scope
  · simp [startsWith, startsQualifier, firstWord?, dot, isWord]
  · simp [startsWith, startsQualifier, firstWord?, scope, isWord]

/-- The name of a type goes on behind type arguments. -/
theorem IsBalanced.readTypeTail_eq
    (balanced : IsBalanced tokens)
    (opens : opening.punctuator? = some .less)
    (closes : closing.punctuator? = some .greater)
    (rest : List Token) :
    readTypeTail (opening :: (tokens ++ closing :: rest)) = readTypeTail rest := by
  have starts : startsWith .less (opening :: (tokens ++ closing :: rest)) = true := by
    simp [startsWith, opens]
  have arguments := balanced.readTypeArguments_eq opens closes rest
  conv => lhs; rw [readTypeTail, dif_pos starts]
  split
  · next behind reading =>
      rw [arguments] at reading
      cases reading
      rfl
  · next behind reading =>
      rw [arguments] at reading
      cases reading

end Angles

namespace IsType

variable
  {labels : Token → Prop}
  {role : TypeRole}
  {tokens : List Token}

/-- The parts of types are balanced. -/
theorem isBalanced
    (type : IsType labels role tokens) :
    IsBalanced tokens := by
  induction type with
  | word isWord => exact isBalanced_part (isTypePart_of_word isWord)
  | qualified head qualifies isWord hypothesis =>
      have isPart : ∀ mark : Token,
          mark.punctuator? = some .dot ∨ mark.punctuator? = some .scope →
            mark.isTypePart = true :=
        fun mark kinds => kinds.elim (isTypePart_of_mark · rfl) (isTypePart_of_mark · rfl)
      have joined := (isBalanced_part (isPart _ qualifies)).append
        (isBalanced_part (isTypePart_of_word isWord))
      exact hypothesis.append joined
  | generic head opens _ closes hypothesis inside =>
      exact hypothesis.append (inside.inAngles opens closes)
  | named _ hypothesis => exact hypothesis
  | tuple opens _ closes hypothesis =>
      exact (isBalanced_part (isTypePart_of_mark opens rfl)).append
        (hypothesis.append (isBalanced_part (isTypePart_of_mark closes rfl)))
  | array _ opens areCommas closes hypothesis =>
      have commas := isBalanced_parts fun comma member =>
        isTypePart_of_mark (areCommas comma member) rfl
      exact hypothesis.append ((isBalanced_part (isTypePart_of_mark opens rfl)).append
        (commas.append (isBalanced_part (isTypePart_of_mark closes rfl))))
  | plain _ hypothesis => exact hypothesis
  | nullable _ question hypothesis =>
      exact hypothesis.append (isBalanced_part (isTypePart_of_mark question rfl))
  | unlabelled _ hypothesis => exact hypothesis
  | labelled _ isWord _ hypothesis =>
      exact hypothesis.append (isBalanced_part (isTypePart_of_word isWord))
  | single _ hypothesis => exact hypothesis
  | several _ isComma _ hypothesis othersHypothesis =>
      exact hypothesis.append
        ((isBalanced_part (isTypePart_of_mark isComma rfl)).append othersHypothesis)

/-- All tokens of types are parts of types or angle brackets. -/
theorem isPart
    (type : IsType labels role tokens) :
    ∀ token ∈ tokens, token.isTypePart = true ∨ token.punctuator? = some .less ∨
      token.punctuator? = some .greater := by
  induction type with
  | word isWord => exact List.forall_mem_singleton.mpr (.inl (isTypePart_of_word isWord))
  | qualified _ qualifies isWord hypothesis =>
      have markPart := qualifies.elim (isTypePart_of_mark · rfl) (isTypePart_of_mark · rfl)
      simp only [List.forall_mem_append, List.forall_mem_cons]
      exact ⟨hypothesis, .inl markPart, .inl (isTypePart_of_word isWord), List.forall_mem_nil _⟩
  | generic _ opens _ closes hypothesis inside =>
      simp only [List.forall_mem_append, List.forall_mem_cons]
      exact ⟨hypothesis, .inr (.inl opens), inside, .inr (.inr closes), List.forall_mem_nil _⟩
  | tuple opens _ closes hypothesis =>
      simp only [List.forall_mem_append, List.forall_mem_cons]
      exact ⟨.inl (isTypePart_of_mark opens rfl), hypothesis,
        .inl (isTypePart_of_mark closes rfl), List.forall_mem_nil _⟩
  | array _ opens areCommas closes hypothesis =>
      simp only [List.forall_mem_append, List.forall_mem_cons]
      exact ⟨hypothesis, .inl (isTypePart_of_mark opens rfl),
        fun comma member => .inl (isTypePart_of_mark (areCommas comma member) rfl),
        .inl (isTypePart_of_mark closes rfl), List.forall_mem_nil _⟩
  | named _ hypothesis | plain _ hypothesis | unlabelled _ hypothesis | single _ hypothesis =>
      exact hypothesis
  | nullable _ question hypothesis =>
      exact List.forall_mem_append.mpr ⟨hypothesis,
        List.forall_mem_singleton.mpr (.inl (isTypePart_of_mark question rfl))⟩
  | labelled _ isWord _ hypothesis =>
      exact List.forall_mem_append.mpr ⟨hypothesis,
        List.forall_mem_singleton.mpr (.inl (isTypePart_of_word isWord))⟩
  | several _ isComma _ hypothesis othersHypothesis =>
      simp only [List.forall_mem_append, List.forall_mem_cons]
      exact ⟨hypothesis, .inl (isTypePart_of_mark isComma rfl), othersHypothesis⟩

/-- No token of a type is a mark that neither joins types nor is an angle bracket. -/
theorem punctuator?_ne
    (type : IsType labels role tokens)
    {token : Token}
    (member : token ∈ tokens)
    (mark : Punctuator)
    (outside : mark.joinsTypes = false ∧ mark ≠ .less ∧ mark ≠ .greater) :
    token.punctuator? ≠ some mark := by
  obtain ⟨notJoining, notLess, notGreater⟩ := outside
  rcases type.isPart token member with isPart | less | greater
  · exact punctuator?_ne_of_isTypePart isPart mark notJoining
  · rw [less]
    exact fun same => notLess (Option.some.inj same).symm
  · rw [greater]
    exact fun same => notGreater (Option.some.inj same).symm

/-- The name of a type begins with a word, and goes on behind all its tokens. -/
theorem exists_head
    (type : IsType labels .name tokens) :
    ∃ first others, tokens = first :: others ∧ first.word?.isSome ∧
      ∀ rest, readTypeTail (others ++ rest) = readTypeTail rest := by
  generalize isName : TypeRole.name = role at type
  induction type with
  | @word token isWord => exact ⟨token, [], rfl, isWord, fun _ => rfl⟩
  | @qualified qualifier mark token head qualifies isWord hypothesis =>
      obtain ⟨first, others, rfl, isFirst, reads⟩ := hypothesis rfl
      refine ⟨first, others ++ [mark, token], rfl, isFirst, fun rest => ?_⟩
      rw [List.append_assoc, reads]
      exact readTypeTail_qualified qualifies isWord rest
  | @generic name inside opening closing head opens arguments closes hypothesis _ =>
      obtain ⟨first, others, rfl, isFirst, reads⟩ := hypothesis rfl
      refine ⟨first, others ++ opening :: (inside ++ [closing]), rfl, isFirst, fun rest => ?_⟩
      rw [List.append_assoc, reads, List.cons_append, List.append_assoc]
      exact arguments.isBalanced.readTypeTail_eq opens closes rest
  | _ => cases isName

end IsType

/-! ## Declared types -/

section Declared

variable
  {labels : Token → Prop}
  {tokens rest : List Token}

/-- The name of a type ends before a mark that neither qualifies it nor opens its arguments. -/
theorem readTypeTail_of_mark
    {token : Token}
    {mark : Punctuator}
    (isMark : token.punctuator? = some mark)
    (stops : mark ∉ [Punctuator.less, .dot, .scope])
    (rest : List Token) :
    readTypeTail (token :: rest) = (true, token :: rest) := by
  obtain ⟨notLess, notDot, notScope⟩ : mark ≠ .less ∧ mark ≠ .dot ∧ mark ≠ .scope := by
    simpa using stops
  rw [readTypeTail]
  simp [startsWith, startsQualifier, isMark, notLess, notDot, notScope]

/-- The name of a type is read up to where it ends, with the question mark behind it. -/
theorem IsType.readDeclaredType_eq
    (type : IsType labels .name tokens)
    (ends : readTypeTail rest = (true, rest)) :
    readDeclaredType (tokens ++ rest) =
      if startsWith .openBracket (skipOptional .question rest) then
        (.array, afterRanks (skipOptional .question rest))
      else
        (.named (textUpTo (tokens ++ rest) (skipOptional .question rest)),
          skipOptional .question rest) := by
  obtain ⟨first, others, rfl, isWord, reads⟩ := type.exists_head
  have notMalformed : (firstWord? (first :: others ++ rest)).isNone = false := by
    simpa [firstWord?, Option.isNone_eq_false_iff] using isWord
  rw [readDeclaredType, notMalformed, List.cons_append, List.tail_cons, reads, ends]
  rfl

/--
A type is read whole, as the text that it is written as.  It is the type of an array if a
square bracket stands behind it.
-/
theorem IsCreatedType.readDeclaredType_eq
    (type : IsCreatedType labels tokens)
    (ends : readTypeTail rest = (true, rest))
    (notQuestion : startsWith .question rest = false) :
    readDeclaredType (tokens ++ rest) =
      if startsWith .openBracket rest then
        (.array, afterRanks rest)
      else
        (.named (sourceText tokens), rest) := by
  cases type with
  | name type =>
      have stays : skipOptional .question rest = rest := by
        rw [skipOptional, notQuestion, if_neg Bool.false_ne_true]
      rw [type.readDeclaredType_eq ends, stays, textUpTo_append]
  | @nullable name mark type question =>
      have skipped : skipOptional .question (mark :: rest) = rest := by
        simp [skipOptional, startsWith, question]
      have marked := readTypeTail_of_mark question (by decide) rest
      rw [List.append_assoc, List.singleton_append, type.readDeclaredType_eq marked, skipped,
        ← List.singleton_append, ← List.append_assoc, textUpTo_append]

end Declared

/-! ## Round and square brackets -/

section Brackets

variable
  {tokens : List Token}

/-- Commas are no brackets. -/
theorem isBracketed_commas
    (areCommas : ∀ token ∈ tokens, token.punctuator? = some .comma) :
    IsBracketed tokens := by
  induction tokens with
  | nil => exact .nil
  | cons token tokens hypothesis =>
      obtain ⟨isComma, others⟩ := List.forall_mem_cons.mp areCommas
      exact (isBracketed_mark isComma rfl rfl).append (hypothesis others)

/-- The round and square brackets of types come in pairs. -/
theorem IsType.isBracketed
    {labels : Token → Prop}
    {role : TypeRole}
    (type : IsType labels role tokens) :
    IsBracketed tokens := by
  induction type with
  | word isWord => exact isBracketed_word isWord
  | qualified _ qualifies isWord hypothesis =>
      rcases qualifies with dot | scope
      · exact hypothesis.append ((isBracketed_mark dot rfl rfl).append (isBracketed_word isWord))
      · exact hypothesis.append ((isBracketed_mark scope rfl rfl).append (isBracketed_word isWord))
  | generic _ opens _ closes hypothesis inside =>
      exact hypothesis.append ((isBracketed_mark opens rfl rfl).append
        (inside.append (isBracketed_mark closes rfl rfl)))
  | named _ hypothesis => exact hypothesis
  | tuple opens _ closes hypothesis => exact .enclosed ⟨_, _, opens, rfl, closes⟩ hypothesis
  | array _ opens areCommas closes hypothesis =>
      exact hypothesis.append (.enclosed ⟨_, _, opens, rfl, closes⟩ (isBracketed_commas areCommas))
  | plain _ hypothesis => exact hypothesis
  | nullable _ question hypothesis =>
      exact hypothesis.append (isBracketed_mark question rfl rfl)
  | unlabelled _ hypothesis => exact hypothesis
  | labelled _ isWord _ hypothesis => exact hypothesis.append (isBracketed_word isWord)
  | single _ hypothesis => exact hypothesis
  | several _ isComma _ hypothesis othersHypothesis =>
      exact hypothesis.append ((isBracketed_mark isComma rfl rfl).append othersHypothesis)

end Brackets

end InitializerJson
