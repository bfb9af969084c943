import Mathlib.Data.List.Infix
import InitializerJson.Proofs.Expression.Extent
import InitializerJson.Proofs.Expression.TypeTokens

namespace InitializerJson

open Lexical

/-!
# Where the end of an expression depends on the room

An expression without room is passed over up to the next delimiter.  Among tokens with
nested brackets, whose angle brackets belong to the types behind `new`, this is where it
ends with room too, except behind a type with a comma between its arguments: the type is
read whole with room, and left at the comma without.
-/

/-- Tokens whose less-than signs open type arguments of a type behind a `new`. -/
inductive AnglesInTypes : List Token → Prop where
  | nil :
      AnglesInTypes []
  | other
      {token : Token}
      {rest : List Token}
      (notLess : token.punctuator? ≠ some .less)
      (behind : AnglesInTypes rest) :
      AnglesInTypes (token :: rest)
  | typed
      {token : Token}
      {type rest : List Token}
      (isNew : token.word? = some "new")
      (isType : IsType (fun _ => True) .name type)
      (noNew : ∀ part ∈ type, part.word? ≠ some "new")
      (behind : AnglesInTypes rest) :
      AnglesInTypes (token :: (type ++ rest))

/-- The types behind `new` hold no delimiter outside their round and square brackets. -/
def TypesHoldNoDelimiter
    (tokens : List Token) :
    Prop :=
  ∀ token type rest, token :: (type ++ rest) <:+ tokens → token.word? = some "new" →
    IsType (fun _ => True) .name type → fromDelimiter 0 type = []

section Types

variable
  {token : Token}
  {type rest tokens : List Token}

/-- A word is no punctuator. -/
theorem punctuator?_of_word
    {word : String}
    (isWord : token.word? = some word) :
    token.punctuator? = none := by
  rcases token with ⟨kind, gap, lexeme⟩
  cases kind with
  | identifier known => rfl
  | _ => cases isWord

/-- From a `new` on, less-than signs open type arguments if they do so everywhere. -/
theorem AnglesInTypes.of_suffix
    (angles : AnglesInTypes tokens)
    {place : List Token}
    (suffix : place <:+ tokens)
    (isNew : firstWord? place = some "new") :
    AnglesInTypes place := by
  induction angles with
  | nil =>
      rw [List.suffix_nil.mp suffix]
      exact .nil
  | other notLess behind hypothesis =>
      rcases List.suffix_cons_iff.mp suffix with rfl | inside
      · exact .other notLess behind
      · exact hypothesis inside
  | @typed token type rest known isType noNew behind hypothesis =>
      rcases List.suffix_cons_iff.mp suffix with rfl | inside
      · exact .typed known isType noNew behind
      obtain ⟨before, shape⟩ := inside
      rcases List.append_eq_append_iff.mp shape with ⟨parts, rfl, rfl⟩ | ⟨between, rfl, rfl⟩
      · cases parts with
        | nil => exact hypothesis (List.suffix_refl rest)
        | cons part parts => exact absurd isNew (noNew part (by simp))
      · exact hypothesis (List.suffix_append between place)

/-! ## Passing over types -/

/-- Array ranks are passed over. -/
theorem fromDelimiter_afterRanks
    (tokens : List Token) :
    fromDelimiter 0 (afterRanks tokens) = fromDelimiter 0 tokens := by
  fun_induction afterRanks tokens with
  | case1 tokens starts hypothesis => exact hypothesis.trans (fromDelimiter_of_group starts rfl)
  | case2 tokens => rfl

/-- A question mark that may be absent is passed over. -/
theorem fromDelimiter_skipQuestion
    (tokens : List Token) :
    fromDelimiter 0 (skipOptional .question tokens) = fromDelimiter 0 tokens := by
  unfold skipOptional
  split
  · next starts => exact fromDelimiter_tail_of_startsWith starts rfl rfl
  · rfl

/-- A type ends where its name does, or behind the question mark and the ranks there. -/
theorem readDeclaredType_rest
    (isWord : (firstWord? tokens).isSome) :
    (readDeclaredType tokens).2 = (readTypeTail tokens.tail).2 ∨
      (readDeclaredType tokens).2 =
        afterRanks (skipOptional .question (readTypeTail tokens.tail).2) := by
  have notNone : (firstWord? tokens).isNone = false := Option.isNone_eq_false_iff.mpr isWord
  rw [readDeclaredType, notNone, if_neg Bool.false_ne_true]
  split
  · next rest shape => exact .inl (by rw [shape])
  · next rest shape =>
      right
      rw [shape]
      simp only
      split
      · rfl
      · next noRanks =>
          rw [afterRanks, dif_neg noRanks]

/-- What follows the name of a type is passed over with it. -/
theorem fromDelimiter_readDeclaredType
    (isWord : (firstWord? tokens).isSome) :
    fromDelimiter 0 (readDeclaredType tokens).2 =
      fromDelimiter 0 (readTypeTail tokens.tail).2 := by
  rcases readDeclaredType_rest isWord with ends | ends
  · rw [ends]
  · rw [ends, fromDelimiter_afterRanks, fromDelimiter_skipQuestion]

/-- No type name goes on with another word. -/
theorem readTypeTail_of_word
    {first : Token}
    (isWord : first.word?.isSome)
    (rest : List Token) :
    readTypeTail (first :: rest) = (true, first :: rest) := by
  obtain ⟨word, known⟩ := Option.isSome_iff_exists.mp isWord
  have noMark := punctuator?_of_word known
  rw [readTypeTail]
  simp [startsWith, startsQualifier, noMark]

/-- Where less-than signs only open type arguments behind `new`, none stands anywhere else. -/
theorem AnglesInTypes.startsWith_less
    (angles : AnglesInTypes tokens) :
    startsWith .less tokens = false := by
  cases angles with
  | nil => rfl
  | other notLess _ => exact beq_eq_false_iff_ne.mpr notLess
  | typed isNew _ _ _ => simp [startsWith, punctuator?_of_word isNew]

/-- A mark and a word that qualify a type name are passed over. -/
theorem fromDelimiter_of_startsQualifier
    (qualified : startsQualifier tokens = true) :
    fromDelimiter 0 tokens.tail.tail = fromDelimiter 0 tokens := by
  obtain ⟨marked, isWord⟩ := Bool.and_eq_true_iff.mp qualified
  rcases Bool.or_eq_true_iff.mp marked with dot | scope
  · exact fromDelimiter_behind_word dot rfl rfl isWord
  · exact fromDelimiter_behind_word scope rfl rfl isWord

/-- Less-than signs that open type arguments only still do so behind a qualifying mark. -/
theorem AnglesInTypes.tail_of_startsQualifier
    (angles : AnglesInTypes tokens)
    (qualified : startsQualifier tokens = true) :
    ∃ word, AnglesInTypes (word :: tokens.tail.tail) := by
  obtain ⟨marked, isWord⟩ := Bool.and_eq_true_iff.mp qualified
  cases angles with
  | nil => cases isWord
  | typed isNew _ _ _ => simp [startsWith, punctuator?_of_word isNew] at marked
  | @other mark rest _ behind =>
      cases rest with
      | nil => cases isWord
      | cons word rest => exact ⟨word, behind⟩

/-- Behind any token, the name of a type goes on without type arguments. -/
theorem AnglesInTypes.fromDelimiter_readTypeTail
    (angles : AnglesInTypes (token :: tokens)) :
    fromDelimiter 0 (readTypeTail tokens).2 = fromDelimiter 0 tokens := by
  induction tokens using readTypeTail.induct generalizing token with
  | case1 tokens starts | case2 tokens starts =>
      cases angles with
      | other _ behind =>
          rw [behind.startsWith_less] at starts
          cases starts
      | typed _ isType _ _ =>
          obtain ⟨first, others, rfl, isWord, _⟩ := isType.exists_head
          rw [List.cons_append, readTypeTail_of_word isWord]
  | case3 tokens noArguments qualified hypothesis =>
      rw [readTypeTail, dif_neg noArguments, dif_pos qualified]
      cases angles with
      | other _ behind =>
          obtain ⟨word, beyond⟩ := behind.tail_of_startsQualifier qualified
          exact (hypothesis beyond).trans (fromDelimiter_of_startsQualifier qualified)
      | typed _ isType _ _ =>
          obtain ⟨first, others, rfl, isWord, _⟩ := isType.exists_head
          obtain ⟨known, isKnown⟩ := Option.isSome_iff_exists.mp isWord
          simp [startsQualifier, startsWith, punctuator?_of_word isKnown] at qualified
  | case4 tokens noArguments noQualifier =>
      rw [readTypeTail, dif_neg noArguments, dif_neg noQualifier]

/-! ## Orderly tokens -/

/-- The place behind a type with arguments is passed over from the front of the type. -/
theorem fromDelimiter_typed
    (angles : AnglesInTypes (token :: rest))
    (isType : IsType (fun _ => True) .name type)
    (noDelimiter : fromDelimiter 0 type = []) :
    fromDelimiter 0 (readDeclaredType (type ++ rest)).2 = fromDelimiter 0 (type ++ rest) := by
  obtain ⟨first, others, rfl, isWord, reads⟩ := isType.exists_head
  have begins : (firstWord? (first :: others ++ rest)).isSome := isWord
  rw [fromDelimiter_readDeclaredType begins, List.cons_append, List.tail_cons, reads,
    angles.fromDelimiter_readTypeTail, ← List.cons_append,
    isType.isBracketed.fromDelimiter_append, if_pos noDelimiter]

/-- Tokens are orderly when their brackets are nested and their types hold no delimiter. -/
theorem isOrderly_of_types
    (nests : Nests [] tokens)
    (angles : AnglesInTypes tokens)
    (hold : TypesHoldNoDelimiter tokens) :
    IsOrderly tokens where
  nested := ⟨[], nests⟩
  types := by
    intro place suffix isNew
    have here := angles.of_suffix suffix isNew
    cases here with
    | nil => cases isNew
    | @typed token type rest known isType _ behind =>
        have notLess : token.punctuator? ≠ some .less := by
          simp [punctuator?_of_word known]
        exact fromDelimiter_typed (.other notLess behind) isType
          (hold token type rest suffix known isType)
    | @other token rest notLess behind =>
        cases rest with
        | nil => rfl
        | cons word rest =>
            by_cases isWord : (firstWord? (word :: rest)).isSome
            · exact (fromDelimiter_readDeclaredType isWord).trans
                (behind.fromDelimiter_readTypeTail.trans (fromDelimiter_tail_of_word isWord))
            · have malformed : (firstWord? (word :: rest)).isNone = true := by
                simpa using isWord
              rw [List.tail_cons, readDeclaredType, if_pos malformed]

/-! ## Types with a delimiter -/

/-- Reading an expression ends behind its first part. -/
theorem readOperation_suffix_readPrimary
    (inner : Reader Expression)
    (tokens : List Token) :
    (readOperation inner tokens).2 <:+ (readPrimary inner tokens).2 := by
  rw [readOperation]
  split
  next left behind shape =>
    rw [shape]
    split
    · exact (inner.suffix behind.tail).trans (List.tail_suffix behind)
    split
    · exact List.suffix_refl behind
    · exact fromDelimiter_suffix 0 behind

/-- A type ends behind its name. -/
theorem readDeclaredType_suffix_readTypeTail
    (isWord : (firstWord? tokens).isSome) :
    (readDeclaredType tokens).2 <:+ (readTypeTail tokens.tail).2 := by
  rcases readDeclaredType_rest isWord with ends | ends
  · exact ends ▸ List.suffix_refl _
  · rw [ends]
    exact (afterRanks_suffix _).trans (skipOptional_suffix .question _)

/-- A creation that names its type ends behind the type. -/
theorem readCreation_suffix_readDeclaredType
    (inner : Reader Expression)
    (isWord : (firstWord? tokens).isSome) :
    (readCreation inner (token :: tokens)).2 <:+ (readDeclaredType tokens).2 := by
  have noMark : ∀ mark, startsWith mark tokens = false := by
    cases tokens with
    | nil => exact fun _ => rfl
    | cons first others =>
        obtain ⟨word, known⟩ := Option.isSome_iff_exists.mp isWord
        intro mark
        rw [startsWith, punctuator?_of_word known]
        rfl
  unfold readCreation
  simp only [List.tail_cons, noMark, Bool.or_false, Bool.false_eq_true, if_false]
  split
  · next rest shape =>
      rw [shape]
      exact List.suffix_refl rest
  · next rest shape =>
      rw [shape]
      exact skipOptionalGroup_suffix .openBrace rest
  · next text rest shape =>
      rw [shape]
      exact (readBlock?_suffix inner _).trans (readOptionalArguments_suffix inner rest)

/-- With room, an expression that creates a type with arguments ends behind the type. -/
theorem read_suffix_behind_type
    (isNew : token.word? = some "new")
    (isType : IsType (fun _ => True) .name type)
    (room : Nat) :
    ((expressionReader (room + 1)).read (token :: (type ++ rest))).2 <:+ rest := by
  obtain ⟨first, others, rfl, isWord, reads⟩ := isType.exists_head
  have begins : (firstWord? (first :: (others ++ rest))).isSome := isWord
  have primary : readPrimary (expressionReader room) (token :: (first :: others ++ rest)) =
      readCreation (expressionReader room) (token :: (first :: others ++ rest)) := by
    rcases token with ⟨kind, gap, lexeme⟩
    cases kind with
    | identifier word =>
        obtain rfl : word = "new" := Option.some.inj isNew
        rfl
    | _ => cases isNew
  have name := readDeclaredType_suffix_readTypeTail begins
  rw [List.tail_cons, reads] at name
  have operation := readOperation_suffix_readPrimary (expressionReader room)
    (token :: (first :: others ++ rest))
  rw [primary] at operation
  exact operation.trans ((readCreation_suffix_readDeclaredType _ begins).trans
    (name.trans (readTypeTail_suffix rest)))

/--
Where a type behind `new` holds a delimiter outside its round and square brackets, an
expression ends there without room, and behind the type with room.
-/
theorem ends_differ
    (isNew : token.word? = some "new")
    (isType : IsType (fun _ => True) .name type)
    (holds : fromDelimiter 0 type ≠ [])
    (room : Nat) :
    ((expressionReader 0).read (token :: (type ++ rest))).2 ≠
      ((expressionReader (room + 1)).read (token :: (type ++ rest))).2 := by
  have isWord : (firstWord? (token :: (type ++ rest))).isSome := by
    simp [firstWord?, isNew]
  have passed : fromDelimiter 0 (token :: (type ++ rest)) = fromDelimiter 0 type ++ rest := by
    rw [← fromDelimiter_tail_of_word isWord, List.tail_cons,
      isType.isBracketed.fromDelimiter_append, if_neg holds]
  intro same
  have within : ((expressionReader (room + 1)).read (token :: (type ++ rest))).2 <:+ rest :=
    read_suffix_behind_type isNew isType room
  rw [← same] at within
  change fromDelimiter 0 (token :: (type ++ rest)) <:+ rest at within
  rw [passed] at within
  have longer := within.length_le
  have nonempty := List.length_pos_iff.mpr holds
  rw [List.length_append] at longer
  omega

/-- Types hold no delimiter where the next one behind each `new` is no part of a type. -/
theorem typesHoldNoDelimiter_of_places
    (noPart : ∀ place ∈ tokens.tails, firstWord? place = some "new" →
      (fromDelimiter 0 place.tail).head?.any
        (fun next => next.isTypePart || next.punctuator? == some .less ||
          next.punctuator? == some .greater) = false) :
    TypesHoldNoDelimiter tokens := by
  intro token type rest suffix isNew isType
  have outside := noPart _ ((List.mem_tails _ _).mpr suffix) isNew
  cases holds : fromDelimiter 0 type with
  | nil => rfl
  | cons next others =>
      have inType : next ∈ type :=
        (fromDelimiter_suffix 0 type).subset (holds ▸ List.mem_cons_self)
      have isPart := isType.isPart next inType
      rw [List.tail_cons, isType.isBracketed.fromDelimiter_append, holds,
        if_neg (by simp)] at outside
      simp_all

end Types

/--
Among tokens with nested brackets, whose angle brackets belong to the types behind `new`,
every expression ends at the same place with all amounts of room if and only if the types
hold no delimiter outside their round and square brackets.
-/
theorem ends_agree_iff
    {tokens : List Token}
    (nests : Nests [] tokens)
    (angles : AnglesInTypes tokens) :
    (∀ start, start <:+ tokens → ∀ room ≤ nestingLimit, ∀ other ≤ nestingLimit,
      ((expressionReader room).read start).2 = ((expressionReader other).read start).2) ↔
      TypesHoldNoDelimiter tokens := by
  constructor
  · intro agree token type rest suffix isNew isType
    by_contra holds
    exact ends_differ isNew isType holds 0
      (agree _ suffix 0 (Nat.zero_le _) 1 (by decide))
  · intro hold start suffix room _ other _
    have orderly := (isOrderly_of_types nests angles hold).suffix suffix
    rw [endsAtDelimiter_expressionReader room start orderly,
      endsAtDelimiter_expressionReader other start orderly]

/-- The tokens of `new Box<(int, string)>();`. -/
def boxCreation : List Token :=
  wordToken [] ['n', 'e', 'w'] ::
    ([wordToken [' '] ['B', 'o', 'x'], markToken [] .less, markToken [] .openParenthesis,
      wordToken [] ['i', 'n', 't'], markToken [] .comma,
      wordToken [' '] ['s', 't', 'r', 'i', 'n', 'g'], markToken [] .closeParenthesis,
      markToken [] .greater] ++
      [markToken [] .openParenthesis, markToken [] .closeParenthesis, markToken [] .semicolon])

/-- Behind a type whose commas are all between parentheses, the room makes no difference. -/
theorem ends_agree_iff_boxCreation :
    Nests [] boxCreation ∧ AnglesInTypes boxCreation ∧
      ((expressionReader 0).read boxCreation).2 =
        ((expressionReader nestingLimit).read boxCreation).2 := by
  have nests : Nests [] boxCreation :=
    .other rfl rfl (by decide) (.other rfl rfl (by decide) (.other rfl rfl (by decide)
      (.opening rfl rfl (.other rfl rfl (by decide) (.other rfl rfl (by decide)
        (.other rfl rfl (by decide) (.closing rfl rfl (.other rfl rfl (by decide)
          (.opening rfl rfl (.closing rfl rfl (.semicolon rfl .nil)))))))))))
  have argument : ∀ gap word, IsType (fun _ => True) .argument [wordToken gap word] :=
    fun _ _ => .plain (.named (.word rfl))
  have tuple := IsType.tuple (punctuator?_markToken [] .openParenthesis)
    (.several (.unlabelled (argument [] ['i', 'n', 't'])) (punctuator?_markToken [] .comma)
      (.single (.unlabelled (argument [' '] ['s', 't', 'r', 'i', 'n', 'g']))))
    (punctuator?_markToken [] .closeParenthesis)
  have box : IsType (fun _ => True) .name [wordToken [' '] ['B', 'o', 'x']] :=
    .word rfl
  have type := box.generic (punctuator?_markToken [] .less)
    (.single (.unlabelled (.plain tuple))) (punctuator?_markToken [] .greater)
  have angles : AnglesInTypes boxCreation :=
    .typed rfl type (by decide) (.other (by decide) (.other (by decide) (.other (by decide) .nil)))
  have hold : TypesHoldNoDelimiter boxCreation :=
    typesHoldNoDelimiter_of_places (by decide)
  exact ⟨nests, angles, (ends_agree_iff nests angles).mpr hold boxCreation
    (List.suffix_refl boxCreation) 0 (Nat.zero_le _) nestingLimit (Nat.le_refl _)⟩

/-- The tokens of `new D<int,string>();`. -/
def pairCreation : List Token :=
  wordToken [] ['n', 'e', 'w'] ::
    ([wordToken [' '] ['D'], markToken [] .less, wordToken [] ['i', 'n', 't'],
      markToken [] .comma, wordToken [] ['s', 't', 'r', 'i', 'n', 'g'], markToken [] .greater] ++
      [markToken [] .openParenthesis, markToken [] .closeParenthesis, markToken [] .semicolon])

/-- Behind a type with a comma between its arguments, the end of a creation depends on the room. -/
theorem ends_differ_pairCreation :
    tokenize "new D<int,string>();" = .ok pairCreation ∧
      Nests [] pairCreation ∧ AnglesInTypes pairCreation ∧
      ¬ ∀ start, start <:+ pairCreation → ∀ room ≤ nestingLimit, ∀ other ≤ nestingLimit,
        ((expressionReader room).read start).2 = ((expressionReader other).read start).2 := by
  have tokenized : tokenize "new D<int,string>();" = .ok pairCreation := by
    rw [tokenize_eq_ok_iff]
    decide +kernel
  have nests : Nests [] pairCreation :=
    .other rfl rfl (by decide) (.other rfl rfl (by decide) (.other rfl rfl (by decide)
      (.other rfl rfl (by decide) (.other rfl rfl (by decide) (.other rfl rfl (by decide)
        (.other rfl rfl (by decide) (.opening rfl rfl (.closing rfl rfl
          (.semicolon rfl .nil)))))))))
  have argument : ∀ word, IsType (fun _ => True) (.item false) [wordToken [] word] :=
    fun _ => .unlabelled (.plain (.named (.word rfl)))
  have name : IsType (fun _ => True) .name [wordToken [' '] ['D']] :=
    .word rfl
  have type := name.generic (punctuator?_markToken [] .less)
    (.several (argument ['i', 'n', 't']) (punctuator?_markToken [] .comma)
      (.single (argument ['s', 't', 'r', 'i', 'n', 'g'])))
    (punctuator?_markToken [] .greater)
  have angles : AnglesInTypes pairCreation :=
    .typed rfl type (by decide) (.other (by decide) (.other (by decide) (.other (by decide) .nil)))
  refine ⟨tokenized, nests, angles, fun agree => ?_⟩
  exact ends_differ rfl type (by decide) 0
    (agree pairCreation (List.suffix_refl pairCreation) 0 (Nat.zero_le _) 1 (by decide))

end InitializerJson
