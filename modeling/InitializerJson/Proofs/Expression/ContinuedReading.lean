import InitializerJson.Proofs.Expression.Continuation

namespace InitializerJson

open Lexical

/-!
# Expressions do not depend on what follows them

A reader settles on its result when more tokens behind those it was given change
nothing once it has left a delimiter.  Every layer of the reading settles when the
reader of inner expressions does, and so do readings of any depth.
-/

/-- A reading stays the same with more tokens behind, if it leaves a delimiter. -/
def SettlesAt {α : Type}
    (read : List Token → α × List Token)
    (tokens : List Token) :
    Prop :=
  HoldsDelimiter (read tokens).2 →
    ∀ more, read (tokens ++ more) = ((read tokens).1, (read tokens).2 ++ more)

/-- A reader stays with what it read wherever it leaves a delimiter. -/
def Settles
    (reader : Reader Expression) :
    Prop :=
  ∀ tokens, SettlesAt reader.read tokens

/-- A numeral stays the same with more tokens behind. -/
theorem numberUpTo_append
    (text : String)
    (negative : Bool)
    (start rest more : List Token) :
    numberUpTo text negative (start ++ more) (rest ++ more) =
      ((numberUpTo text negative start rest).1,
        (numberUpTo text negative start rest).2 ++ more) := by
  unfold numberUpTo
  split
  · rfl
  · exact unsupportedUpTo_append start rest more

section Lists

variable
  {inner : Reader Expression}
  (settles : Settles inner)
  (tokens : List Token)

include settles

/-- Arguments stay the same with more tokens behind. -/
theorem readArgumentList_settles :
    SettlesAt (readArgumentList inner) tokens := by
  intro holds more
  have here := holds.of_suffix (readArgumentList_suffix inner tokens)
  fun_induction readArgumentList inner tokens with
  | case1 tokens first behind reading comma others hypothesis =>
      have inOthers := holds.of_suffix (readArgumentList_suffix inner behind.tail)
      have inBehind := inOthers.of_suffix (List.tail_suffix behind)
      have first := settles (skipLabel tokens) (by rw [reading]; exact inBehind) more
      rw [reading] at first
      rw [readArgumentList_step, skipLabel_more here]
      simp only [first, startsWith_more inBehind, comma, if_true, tail_more inBehind]
      rw [hypothesis holds inOthers]
  | case2 tokens first behind reading comma =>
      have inBehind := holds.of_suffix (skipOptional_suffix .closeParenthesis behind)
      have first := settles (skipLabel tokens) (by rw [reading]; exact inBehind) more
      rw [reading] at first
      rw [readArgumentList_step, skipLabel_more here]
      simp only [first, startsWith_more inBehind, comma, skipOptional_more inBehind]
      rfl

/-- Arguments in parentheses stay the same with more tokens behind. -/
theorem readArguments_settles :
    SettlesAt (readArguments inner) tokens := by
  intro holds more
  have here := holds.of_suffix (readArguments_suffix inner tokens)
  unfold readArguments at holds ⊢
  rw [startsWith_more here]
  split
  · rw [tail_more here]
  · next notClosed =>
      rw [if_neg notClosed] at holds
      exact readArgumentList_settles settles tokens holds more

/-- Entries stay the same with more tokens behind. -/
theorem readEntries_settles :
    SettlesAt (readEntries inner) tokens := by
  intro holds more
  have here := holds.of_suffix (readEntries_suffix inner tokens)
  have notEmpty : ¬ (tokens ++ more).isEmpty = true := by
    simp [here.ne_nil]
  fun_induction readEntries inner tokens with
  | case1 tokens empty => exact absurd rfl holds.ne_nil
  | case2 tokens empty closed =>
      rw [readEntries_step, if_neg notEmpty, startsWith_more here, if_pos closed, tail_more here]
  | case3 tokens empty closed first behind reading comma others hypothesis =>
      have inOthers := holds.of_suffix (readEntries_suffix inner behind.tail)
      have inBehind := inOthers.of_suffix (List.tail_suffix behind)
      have first := settles tokens (by rw [reading]; exact inBehind) more
      rw [reading] at first
      rw [readEntries_step, if_neg notEmpty, startsWith_more here, if_neg closed]
      simp only [first, startsWith_more inBehind, comma, if_true, tail_more inBehind]
      rw [hypothesis holds inOthers (by simp [inOthers.ne_nil])]
  | case4 tokens empty closed first behind reading comma =>
      have inBehind := holds.of_suffix (skipOptional_suffix .closeBrace behind)
      have first := settles tokens (by rw [reading]; exact inBehind) more
      rw [reading] at first
      rw [readEntries_step, if_neg notEmpty, startsWith_more here, if_neg closed]
      simp only [first, startsWith_more inBehind, comma, skipOptional_more inBehind]
      rfl

/-- A block that may be absent stays the same with more tokens behind. -/
theorem readBlock?_settles :
    SettlesAt (readBlock? inner) tokens := by
  intro holds more
  have here := holds.of_suffix (readBlock?_suffix inner tokens)
  unfold readBlock? at holds ⊢
  rw [startsWith_more here, tail_more here]
  split
  · next opens =>
      rw [if_pos opens] at holds
      rw [readEntries_settles settles tokens.tail holds more]
  · rfl

/-- Arguments that may be absent stay the same with more tokens behind. -/
theorem readOptionalArguments_settles :
    SettlesAt (readOptionalArguments inner) tokens := by
  intro holds more
  have here := holds.of_suffix (readOptionalArguments_suffix inner tokens)
  unfold readOptionalArguments at holds ⊢
  rw [startsWith_more here, tail_more here]
  split
  · next opens =>
      rw [if_pos opens] at holds
      exact readArguments_settles settles tokens.tail holds more
  · rfl

/-! ## Creations and chains -/

/-- A target-typed creation stays the same with more tokens behind. -/
theorem readCreation_settles_of_call
    (call : startsWith .openParenthesis tokens.tail = true) :
    SettlesAt (readCreation inner) tokens := by
  intro holds more
  have here := holds.of_suffix (readCreation_suffix inner tokens)
  simp only [readCreation, call, if_true] at holds
  have inArguments := holds.of_suffix (readBlock?_suffix inner _)
  have inList := inArguments.of_suffix (readArguments_suffix inner _)
  have inTail := inList.of_suffix (List.tail_suffix tokens.tail)
  have arguments := readArguments_settles settles _ inArguments more
  have block := readBlock?_settles settles _ holds more
  simp only [readCreation, tail_more here, startsWith_more inTail, call, if_true,
    tail_more inTail, arguments, block]

omit settles in
/-- An anonymous object or array is passed over with more tokens behind as before. -/
theorem readCreation_settles_of_group
    (noCall : ¬ startsWith .openParenthesis tokens.tail = true)
    (group :
      (startsWith .openBrace tokens.tail || startsWith .openBracket tokens.tail) = true) :
    SettlesAt (readCreation inner) tokens := by
  intro holds more
  have here := holds.of_suffix (readCreation_suffix inner tokens)
  simp only [readCreation, if_neg noCall, if_pos group] at holds ⊢
  have inGroup : HoldsDelimiter (afterGroup 0 tokens.tail) :=
    HoldsDelimiter.of_suffix holds (skipOptionalGroup_suffix .openBrace _)
  have inTail := inGroup.of_suffix (afterGroup_suffix 0 tokens.tail)
  rw [tail_more here, startsWith_more inTail, if_neg noCall, startsWith_more inTail,
    startsWith_more inTail, if_pos group, afterGroup_more more inGroup,
    skipOptionalGroup_more more holds, unsupportedUpTo_append]
  rfl

/-- A creation that is to name its type stays the same with more tokens behind. -/
theorem readCreation_settles_of_type
    (noCall : ¬ startsWith .openParenthesis tokens.tail = true)
    (noGroup :
      ¬ (startsWith .openBrace tokens.tail || startsWith .openBracket tokens.tail) = true) :
    SettlesAt (readCreation inner) tokens := by
  intro holds more
  have here := holds.of_suffix (readCreation_suffix inner tokens)
  simp only [readCreation, if_neg noCall, if_neg noGroup] at holds ⊢
  rcases declared : readDeclaredType tokens.tail with ⟨type, rest⟩
  have inRest : HoldsDelimiter rest := by
    rw [declared] at holds
    cases type with
    | malformed => exact holds
    | array => exact HoldsDelimiter.of_suffix holds (skipOptionalGroup_suffix .openBrace rest)
    | named type =>
        exact (HoldsDelimiter.of_suffix holds (readBlock?_suffix inner _)).of_suffix
          (readOptionalArguments_suffix inner rest)
  have inType : HoldsDelimiter (readDeclaredType tokens.tail).2 := by
    rw [declared]
    exact inRest
  have typed := readDeclaredType_more more inType
  have typeSuffix := readDeclaredType_suffix tokens.tail
  rw [declared] at holds typed typeSuffix
  have inTail := inRest.of_suffix typeSuffix
  rw [tail_more here, startsWith_more inTail, if_neg noCall, startsWith_more inTail,
    startsWith_more inTail, if_neg noGroup, typed]
  cases type with
  | malformed => exact unsupportedUpTo_append tokens rest more
  | array =>
      simp only [skipOptionalGroup_more more holds]
      exact unsupportedUpTo_append tokens _ more
  | named type =>
      have inArguments := HoldsDelimiter.of_suffix holds (readBlock?_suffix inner _)
      have arguments := readOptionalArguments_settles settles rest inArguments more
      have block := readBlock?_settles settles _ holds more
      simp only [arguments, block]

/-- A creation stays the same with more tokens behind. -/
theorem readCreation_settles :
    SettlesAt (readCreation inner) tokens := by
  by_cases call : startsWith .openParenthesis tokens.tail = true
  · exact readCreation_settles_of_call settles tokens call
  by_cases group :
      (startsWith .openBrace tokens.tail || startsWith .openBracket tokens.tail) = true
  · exact readCreation_settles_of_group tokens call group
  · exact readCreation_settles_of_type settles tokens call group

/-- A chain stays the same with more tokens behind, also behind its start and its last call. -/
theorem readChain_more
    (start : List Token)
    (last : ChainEnd)
    (holds : HoldsDelimiter (readChain inner start last tokens).2)
    (more : List Token) :
    readChain inner (start ++ more) (last.append more) (tokens ++ more) =
      ((readChain inner start last tokens).1, (readChain inner start last tokens).2 ++ more) := by
  have here := holds.of_suffix (readChain_suffix inner start last tokens)
  fun_induction readChain inner start last tokens with
  | case1 last tokens isMember hypothesis =>
      have inRest := holds.of_suffix (readChain_suffix inner start .member tokens.tail.tail)
      rw [readChain_step, startsMember_more here, if_pos isMember, tail_more here,
        tail_more (inRest.of_suffix (List.tail_suffix _))]
      exact hypothesis holds inRest
  | case2 last tokens notMember call arguments behind reading hypothesis =>
      have inBehind := holds.of_suffix (readChain_suffix inner start _ behind)
      have read := readArguments_settles settles tokens.tail (by rw [reading]; exact inBehind) more
      rw [reading] at read
      rw [readChain_step, startsMember_more here, if_neg notMember, startsWith_more here,
        if_pos call, tail_more here]
      simp only [read]
      exact hypothesis holds inBehind
  | case3 last tokens notMember notCall access hypothesis =>
      have inRest := holds.of_suffix (readChain_suffix inner start .access (afterGroup 0 tokens))
      rw [readChain_step, startsMember_more here, if_neg notMember, startsWith_more here,
        if_neg notCall, startsWith_more here, if_pos access, afterGroup_more more inRest]
      exact hypothesis holds inRest
  | case4 last tokens notMember notCall notAccess =>
      rw [readChain_step, startsMember_more here, if_neg notMember, startsWith_more here,
        if_neg notCall, startsWith_more here, if_neg notAccess, ChainEnd.toExpression_append]

/-! ## Whole expressions -/

omit settles in
/-- One token or group is passed over with more tokens behind as before. -/
theorem readUnsupported_settles :
    SettlesAt readUnsupported tokens := by
  intro holds more
  have here := holds.of_suffix (readUnsupported_suffix tokens)
  unfold readUnsupported at holds ⊢
  rw [atOpener_more here, atExpressionEnd_more here]
  split
  · next opens =>
      rw [if_pos opens] at holds
      rw [afterGroup_more more holds, unsupportedUpTo_append]
      rfl
  · split
    · rw [unsupportedUpTo_append]
      rfl
    · rw [tail_more here, unsupportedUpTo_append]
      rfl

omit settles in
/-- What begins with a minus sign stays the same with more tokens behind. -/
theorem readNegative_settles
    (isMinus : startsWith .minus tokens = true) :
    SettlesAt readNegative tokens := by
  intro holds more
  have here := holds.of_suffix (readNegative_suffix tokens)
  have behind := here.behind_mark isMinus rfl
  have other := readUnsupported_settles tokens
  rcases tokens with _ | ⟨first, _ | ⟨second, rest⟩⟩
  · exact absurd rfl here.ne_nil
  · exact absurd rfl behind.ne_nil
  · rcases second with ⟨kind, gap, lexeme⟩
    cases kind with
    | number text => exact numberUpTo_append text true (first :: _ :: rest) rest more
    | _ => exact other holds more

/-- What begins with a word stays the same with more tokens behind. -/
theorem readWord_settles
    (word : String)
    (isWord : (firstWord? tokens).isSome) :
    SettlesAt (readWord inner word) tokens := by
  intro holds more
  have here := holds.of_suffix (readWord_suffix inner word tokens)
  have behind := here.behind_word isWord
  unfold readWord at holds ⊢
  rw [tail_more here, startsWith_more behind]
  split
  · rfl
  next notNull =>
  rw [if_neg notNull] at holds
  split
  · rfl
  next notTrue =>
  rw [if_neg notTrue] at holds
  split
  · rfl
  next notFalse =>
  rw [if_neg notFalse] at holds
  split
  · rfl
  next notDefault =>
  rw [if_neg notDefault] at holds
  split
  · next isNew =>
      rw [if_pos isNew] at holds
      exact readCreation_settles settles tokens holds more
  next notNew =>
  rw [if_neg notNew] at holds
  split
  · next chained =>
      rw [if_pos chained] at holds
      exact readChain_more settles tokens.tail tokens .member holds more
  · next notChained =>
      rw [if_neg notChained] at holds
      exact readUnsupported_settles tokens holds more

/-- An expression without operators stays the same with more tokens behind. -/
theorem readPrimary_settles :
    SettlesAt (readPrimary inner) tokens := by
  intro holds more
  cases tokens with
  | nil => exact absurd rfl holds.ne_nil
  | cons token rest =>
      have other := readUnsupported_settles (token :: rest)
      rcases token with ⟨kind, gap, lexeme⟩
      cases kind with
      | identifier word => exact readWord_settles settles _ word rfl holds more
      | number text => exact numberUpTo_append text false (_ :: rest) rest more
      | string value | character text => rfl
      | interpolated | unknown => exact other holds more
      | punctuator mark =>
          cases mark with
          | minus => exact readNegative_settles _ rfl holds more
          | openBrace =>
              have entries := readEntries_settles settles rest holds more
              simp only [List.cons_append, readPrimary, entries]
          | openBracket =>
              have group := afterGroup_more more holds
              simp only [List.cons_append] at group
              simp only [List.cons_append, readPrimary, group]
              rw [← List.cons_append, textUpTo_append_append]
          | _ => exact other holds more

/-- An expression stays the same with more tokens behind. -/
theorem readOperation_settles :
    SettlesAt (readOperation inner) tokens := by
  intro holds more
  rcases reading : readPrimary inner tokens with ⟨left, behind⟩
  have primary := readPrimary_settles settles tokens
  rw [SettlesAt, reading] at primary
  unfold readOperation at holds ⊢
  rw [reading] at holds ⊢
  simp only at holds ⊢
  split at holds
  · next assigns =>
      have inTail := HoldsDelimiter.of_suffix holds (inner.suffix behind.tail)
      have inBehind := inTail.of_suffix (List.tail_suffix behind)
      have value := settles behind.tail holds more
      have bare : ((behind ++ more).length + 1 == (tokens ++ more).length) =
          (behind.length + 1 == tokens.length) := by
        rw [Bool.eq_iff_iff, beq_iff_eq, beq_iff_eq, List.length_append, List.length_append]
        omega
      rw [primary inBehind more]
      simp only [startsWith_more inBehind, if_pos assigns, tail_more inBehind, value, bare,
        textUpTo_append_append]
  · next other =>
      split at holds
      · next ends =>
          rw [primary holds more]
          simp only [startsWith_more holds, if_neg other, atExpressionEnd_more holds, if_pos ends]
      · next goesOn =>
          have inBehind := HoldsDelimiter.of_suffix holds (fromDelimiter_suffix 0 behind)
          rw [primary inBehind more]
          simp only [startsWith_more inBehind, if_neg other, atExpressionEnd_more inBehind,
            if_neg goesOn]
          rw [fromDelimiter_more more holds, unsupportedUpTo_append]
          rfl

end Lists

/-- Passing over every expression settles. -/
theorem settles_passingReader :
    Settles passingReader := by
  intro tokens holds more
  simp only [passingReader, passExpression] at holds ⊢
  rw [fromDelimiter_more more holds, unsupportedUpTo_append]
  rfl

/-- Expressions settle, however many layers may open. -/
theorem settles_expressionReader
    (room : Nat) :
    Settles (expressionReader room) := by
  induction room with
  | zero => exact settles_passingReader
  | succ room hypothesis => exact readOperation_settles hypothesis

end InitializerJson
