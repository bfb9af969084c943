import InitializerJson.Proofs.Expression.SpelledTokens
import InitializerJson.Proofs.Expression.TypeTokens

namespace InitializerJson

open Lexical Character

/-!
# Types are read back

The words and marks of a type are read back from their spelling, wherever spaces stand
between them: no two of its marks make a longer one.  A type as written is spelled by such
tokens.
-/

/-- The characters that go on behind a type as part of its last token. -/
def continuesType
    (character : Char) :
    Bool :=
  continuesIdentifier character || character == '='

/-- The characters that go on behind a type argument as part of its last token. -/
def continuesArgument
    (character : Char) :
    Bool :=
  continuesType character || character == '?' || character == '.'

/-- The characters that go on behind a part of a type as part of its last token. -/
def TypeRole.continues : TypeRole → Char → Bool
  | name => continuesType
  | operand => continuesType
  | _ => continuesArgument

/-! ## Spelled types -/

/-- A run that a type argument ends is ended as that of a type. -/
theorem endsRun_continuesType
    {rest : List Char}
    (ends : EndsRun continuesArgument rest) :
    EndsRun continuesType rest :=
  endsRun_of_imp (fun character inside => by simp [continuesArgument, inside]) ends

/-- No identifier goes on behind a type. -/
theorem endsRun_continuesIdentifier_of_type
    {rest : List Char}
    (ends : EndsRun continuesType rest) :
    EndsRun continuesIdentifier rest :=
  endsRun_of_imp (fun character inside => by simp [continuesType, inside]) ends

namespace IsType

variable
  {role : TypeRole}
  {tokens : List Token}

/-- The parts of types begin with a word or with the parenthesis of a tuple. -/
theorem exists_first
    {labels : Token → Prop}
    (type : IsType labels role tokens) :
    ∃ first others, tokens = first :: others ∧
      (first.word?.isSome ∨ first.punctuator? = some .openParenthesis) := by
  induction type with
  | word isWord => exact ⟨_, _, rfl, .inl isWord⟩
  | tuple opens _ _ _ => exact ⟨_, _, rfl, .inr opens⟩
  | named _ hypothesis => exact hypothesis
  | plain _ hypothesis => exact hypothesis
  | unlabelled _ hypothesis => exact hypothesis
  | single _ hypothesis => exact hypothesis
  | qualified _ _ _ hypothesis | generic _ _ _ _ hypothesis _ | array _ _ _ _ hypothesis
  | nullable _ _ hypothesis | labelled _ _ _ hypothesis | several _ _ _ hypothesis _ =>
      obtain ⟨first, others, rfl, begins⟩ := hypothesis
      exact ⟨first, _, rfl, begins⟩

/-- An angle bracket before types is read as one. -/
theorem endsBefore_less
    {labels : Token → Prop}
    (type : IsType labels role tokens)
    (spelled : ∀ token ∈ tokens, token.IsSpelled)
    (rest : List Char) :
    Punctuator.less.EndsBefore (spelling tokens ++ rest) := by
  obtain ⟨first, others, rfl, isWord | opens⟩ := type.exists_first
  · exact (spelled first List.mem_cons_self).endsBefore_word isWord .less others rest
  · obtain ⟨gap, spaces, rfl⟩ := (spelled first List.mem_cons_self).exists_mark opens
    rw [spelling_cons, List.append_assoc, List.append_assoc]
    apply endsBefore_behind_spaces spaces
    refine ⟨?_, fun isDot => by cases isDot⟩
    intro next first
    cases first
    decide

/-- Spelled types are read back before whatever does not go on as part of them. -/
theorem areReadBack
    (type : IsType Token.IsParted role tokens)
    (spelled : ∀ token ∈ tokens, token.IsSpelled)
    {rest : List Char}
    (ends : EndsRun role.continues rest) :
    AreReadBack tokens rest := by
  induction type generalizing rest with
  | word isWord =>
      have known := List.forall_mem_singleton.mp spelled
      exact ⟨known.isReadBack_word isWord (endsRun_continuesIdentifier_of_type ends), trivial⟩
  | @qualified qualifier mark token head qualifies isWord hypothesis =>
      obtain ⟨headSpelled, others⟩ := List.forall_mem_append.mp spelled
      obtain ⟨markSpelled, wordSpelled⟩ := List.forall_mem_cons.mp others
      have known := List.forall_mem_singleton.mp wordSpelled
      have wordRead := known.isReadBack_word isWord (endsRun_continuesIdentifier_of_type ends)
      rw [areReadBack_append]
      rcases qualifies with dot | scope
      · refine ⟨hypothesis headSpelled (markSpelled.endsRun_mark dot rfl (by decide) _ _), ?_,
          wordRead, trivial⟩
        exact markSpelled.isReadBack_mark dot (by decide) (known.endsBefore_word isWord _ _ _)
      · exact ⟨hypothesis headSpelled (markSpelled.endsRun_mark scope rfl (by decide) _ _),
          markSpelled.isReadBack_whole scope (by decide) _, wordRead, trivial⟩
  | @generic name inside opening closing head opens arguments closes hypothesis inner =>
      obtain ⟨headSpelled, others⟩ := List.forall_mem_append.mp spelled
      obtain ⟨openSpelled, bracketed⟩ := List.forall_mem_cons.mp others
      obtain ⟨insideSpelled, closeSpelled⟩ := List.forall_mem_append.mp bracketed
      have closeKnown := List.forall_mem_singleton.mp closeSpelled
      rw [areReadBack_append]
      refine ⟨hypothesis headSpelled (openSpelled.endsRun_mark opens rfl (by decide) _ _), ?_, ?_⟩
      · apply openSpelled.isReadBack_mark opens (by decide)
        rw [spelling_append, List.append_assoc]
        exact arguments.endsBefore_less insideSpelled _
      · rw [areReadBack_append]
        exact ⟨inner insideSpelled (closeKnown.endsRun_mark closes rfl (by decide) _ _),
          closeKnown.isReadBack_mark closes (by decide)
            (endsBefore_of_endsRun ends (by decide) (by decide)), trivial⟩
  | named _ hypothesis => exact hypothesis spelled ends
  | @tuple inside opening closing opens parts closes inner =>
      obtain ⟨openSpelled, bracketed⟩ := List.forall_mem_cons.mp spelled
      obtain ⟨insideSpelled, closeSpelled⟩ := List.forall_mem_append.mp bracketed
      have closeKnown := List.forall_mem_singleton.mp closeSpelled
      refine ⟨openSpelled.isReadBack_whole opens (by decide) _, ?_⟩
      rw [areReadBack_append]
      exact ⟨inner insideSpelled (closeKnown.endsRun_mark closes rfl (by decide) _ _),
        closeKnown.isReadBack_whole closes (by decide) rest, trivial⟩
  | @array element commas opening closing type opens areCommas closes hypothesis =>
      obtain ⟨elementSpelled, others⟩ := List.forall_mem_append.mp spelled
      obtain ⟨openSpelled, bracketed⟩ := List.forall_mem_cons.mp others
      obtain ⟨commasSpelled, closeSpelled⟩ := List.forall_mem_append.mp bracketed
      have closeKnown := List.forall_mem_singleton.mp closeSpelled
      rw [areReadBack_append]
      refine ⟨hypothesis elementSpelled (openSpelled.endsRun_mark opens rfl (by decide) _ _),
        openSpelled.isReadBack_whole opens (by decide) _, ?_⟩
      rw [areReadBack_append]
      exact ⟨areReadBack_commas areCommas commasSpelled _,
        closeKnown.isReadBack_whole closes (by decide) rest, trivial⟩
  | plain _ hypothesis => exact hypothesis spelled (endsRun_continuesType ends)
  | @nullable operand mark type question hypothesis =>
      obtain ⟨operandSpelled, markSpelled⟩ := List.forall_mem_append.mp spelled
      have known := List.forall_mem_singleton.mp markSpelled
      rw [areReadBack_append]
      exact ⟨hypothesis operandSpelled (known.endsRun_mark question rfl (by decide) _ _),
        known.isReadBack_mark question (by decide)
          (endsBefore_of_endsRun ends (by decide) (by decide)), trivial⟩
  | unlabelled _ hypothesis => exact hypothesis spelled ends
  | @labelled argument label type isWord parted hypothesis =>
      obtain ⟨argumentSpelled, labelSpelled⟩ := List.forall_mem_append.mp spelled
      have known := List.forall_mem_singleton.mp labelSpelled
      have wordEnds := endsRun_continuesIdentifier_of_type (endsRun_continuesType ends)
      rw [areReadBack_append]
      exact ⟨hypothesis argumentSpelled (known.endsRun_parted parted rfl _ _),
        known.isReadBack_word isWord wordEnds, trivial⟩
  | single _ hypothesis => exact hypothesis spelled ends
  | @several named item others comma _ isComma _ hypothesis othersHypothesis =>
      obtain ⟨itemSpelled, behind⟩ := List.forall_mem_append.mp spelled
      obtain ⟨commaSpelled, othersSpelled⟩ := List.forall_mem_cons.mp behind
      rw [areReadBack_append]
      exact ⟨hypothesis itemSpelled (commaSpelled.endsRun_mark isComma rfl rfl _ _),
        commaSpelled.isReadBack_whole isComma (by decide) _, othersHypothesis othersSpelled ends⟩

end IsType

/-- Spelled types of creations are read back before what does not go on as part of them. -/
theorem IsCreatedType.areReadBack
    {tokens : List Token}
    (type : IsCreatedType Token.IsParted tokens)
    (spelled : ∀ token ∈ tokens, token.IsSpelled)
    {rest : List Char}
    (ends : EndsRun continuesArgument rest) :
    AreReadBack tokens rest := by
  cases type with
  | name type => exact type.areReadBack spelled (endsRun_continuesType ends)
  | nullable type question =>
      exact (IsType.nullable (.named type) question).areReadBack spelled ends

/-! ## Types as written -/

/-- The part of a type that stands at a place. -/
def TypePlace.role : TypePlace → TypeRole
  | alone => .name
  | argument => .argument

/-- The tokens of a part of a type as it is written behind a gap. -/
structure WrittenType
    (role : TypeRole)
    (gap text : List Char)
    (first : Token)
    (others : List Token) :
    Prop where
  type : IsType Token.IsParted role (first :: others)
  spelled : ∀ token ∈ first :: others, token.IsSpelled
  begins : first.gap = gap
  written : spelling (first :: others) = gap ++ text

namespace WrittenType

variable
  {role : TypeRole}
  {gap text : List Char}
  {first : Token}
  {others : List Token}

/-- A written type with tokens behind it is written when they make a type with it. -/
theorem append
    (written : WrittenType role gap text first others)
    {wider : TypeRole}
    {behind : List Token}
    {more : List Char}
    (type : IsType Token.IsParted wider (first :: others ++ behind))
    (spelled : ∀ token ∈ behind, token.IsSpelled)
    (spells : spelling behind = more) :
    WrittenType wider gap (text ++ more) first (others ++ behind) where
  type := type
  spelled := List.forall_mem_append.mpr ⟨written.spelled, spelled⟩
  begins := written.begins
  written := by
    rw [← List.cons_append, spelling_append, written.written, spells, List.append_assoc]

/-- A written type is spelled by its tokens. -/
theorem spells
    (written : WrittenType role gap text first others) :
    Spells (EndsRun role.continues) (gap ++ text) (first :: others) where
  spelled := written.written
  readBack _ ends := written.type.areReadBack written.spelled ends

/-- A type that stands by itself begins with a word. -/
theorem exists_word
    (written : WrittenType .name gap text first others) :
    ∃ word, first = wordToken gap word := by
  obtain ⟨head, behind, shape, isWord, _⟩ := written.type.exists_head
  cases shape
  obtain ⟨known, word, _, _, rfl⟩ :=
    (written.spelled first List.mem_cons_self).exists_word isWord
  obtain rfl : known = gap := written.begins
  exact ⟨word, rfl⟩

/-- A type is read up to the arguments or the block behind it. -/
theorem readDeclaredType_eq
    (written : WrittenType .name gap text first others)
    {mark : Punctuator}
    (stops : mark = .openParenthesis ∨ mark = .openBrace)
    (markGap : List Char)
    (rest : List Token) :
    readDeclaredType (first :: (others ++ markToken markGap mark :: rest)) =
      (.named (String.ofList text), markToken markGap mark :: rest) := by
  have created : IsCreatedType Token.IsParted (first :: others) := .name written.type
  have ends : readTypeTail (markToken markGap mark :: rest) =
      (true, markToken markGap mark :: rest) :=
    readTypeTail_of_mark rfl (by rcases stops with rfl | rfl <;> decide) rest
  have spelled : spelling (first :: others) = first.gap ++ text := by
    rw [written.written, written.begins]
  rw [← List.cons_append, created.readDeclaredType_eq ends, sourceText_of_spelling spelled]
  · rcases stops with rfl | rfl <;> rfl
  · rcases stops with rfl | rfl <;> rfl

end WrittenType

/-- Spelled tokens between two marks are spelled. -/
theorem spelled_enclosed
    {gap : List Char}
    {tokens : List Token}
    (opening closing : Punctuator)
    (spaces : IsSpaces gap)
    (spelled : ∀ token ∈ tokens, token.IsSpelled) :
    ∀ token ∈ markToken gap opening :: (tokens ++ [markToken [] closing]), token.IsSpelled := by
  have closes := List.forall_mem_singleton.mpr (Token.IsSpelled.mark isSpaces_nil closing)
  exact List.forall_mem_cons.mpr
    ⟨.mark spaces opening, List.forall_mem_append.mpr ⟨spelled, closes⟩⟩

/-- Tokens between two marks are spelled between the characters of these. -/
theorem spelling_enclosed
    (gap : List Char)
    (tokens : List Token)
    (opening closing : Punctuator) :
    spelling (markToken gap opening :: (tokens ++ [markToken [] closing])) =
      gap ++ (opening.spelling ++ (spelling tokens ++ closing.spelling)) := by
  simp [markToken]

/-- A mark and a word behind it are spelled. -/
theorem spelled_qualifier
    {word : List Char}
    (mark : Punctuator)
    (isWord : IsWord word) :
    (∀ token ∈ [markToken [] mark, wordToken [] word], token.IsSpelled) ∧
      spelling [markToken [] mark, wordToken [] word] = mark.spelling ++ word := by
  have wordSpelled := List.forall_mem_singleton.mpr (Token.IsSpelled.word isSpaces_nil isWord)
  exact ⟨List.forall_mem_cons.mpr ⟨.mark isSpaces_nil mark, wordSpelled⟩,
    by simp [markToken, wordToken]⟩

/-- Types with commas between them are written when each of them is. -/
theorem exists_writtenTypes
    {named : Bool}
    {texts : List (List Char)}
    (nonempty : texts ≠ [])
    (written :
      ∀ text ∈ texts, ∀ gap,
        IsSpaces gap → ∃ first others, WrittenType .argument gap text first others)
    {gap : List Char}
    (spaces : IsSpaces gap) :
    ∃ first others, WrittenType (.items named) gap (commaSeparated texts) first others := by
  induction texts generalizing gap with
  | nil => exact absurd rfl nonempty
  | cons text texts hypothesis =>
      obtain ⟨textWritten, textsWritten⟩ := List.forall_mem_cons.mp written
      obtain ⟨first, others, argument⟩ := textWritten gap spaces
      have item : IsType Token.IsParted (.item named) (first :: others) := .unlabelled argument.type
      cases texts with
      | nil =>
          refine ⟨first, others, .single item, argument.spelled, argument.begins, ?_⟩
          simpa [commaSeparated] using argument.written
      | cons second texts =>
          obtain ⟨next, behind, more⟩ := hypothesis (by simp) textsWritten isSpaces_one
          have comma : (markToken [] .comma).IsSpelled := .mark isSpaces_nil .comma
          rw [commaSeparated_cons_cons]
          refine ⟨first, _, argument.append (.several item rfl more.type)
            (List.forall_mem_cons.mpr ⟨comma, more.spelled⟩) ?_⟩
          rw [spelling_cons, more.written]
          rfl

/-- Every type has tokens. -/
theorem TypeText.exists_written
    {place : TypePlace}
    {text : List Char}
    (type : TypeText place text) :
    ∀ gap, IsSpaces gap → ∃ first others, WrittenType place.role gap text first others := by
  induction type with
  | @word word isWord =>
      intro gap spaces
      have spelled := List.forall_mem_singleton.mpr (Token.IsSpelled.word spaces isWord)
      exact ⟨wordToken gap word, [], .word rfl, spelled, rfl, by simp [wordToken]⟩
  | @member qualifier word _ isWord hypothesis =>
      intro gap spaces
      obtain ⟨first, others, written⟩ := hypothesis gap spaces
      obtain ⟨spelled, spells⟩ := spelled_qualifier .dot isWord
      exact ⟨first, _, written.append (.qualified written.type (.inl rfl) rfl) spelled spells⟩
  | @qualified qualifier word _ isWord hypothesis =>
      intro gap spaces
      obtain ⟨first, others, written⟩ := hypothesis gap spaces
      obtain ⟨spelled, spells⟩ := spelled_qualifier .scope isWord
      exact ⟨first, _, written.append (.qualified written.type (.inr rfl) rfl) spelled spells⟩
  | @generic type arguments _ nonempty _ hypothesis argumentsWritten =>
      intro gap spaces
      obtain ⟨first, others, written⟩ := hypothesis gap spaces
      obtain ⟨next, behind, inside⟩ :=
        exists_writtenTypes nonempty argumentsWritten isSpaces_nil
      have spelled := spelled_enclosed .less .greater isSpaces_nil inside.spelled
      refine ⟨first, _, written.append (.generic written.type rfl inside.type rfl) spelled ?_⟩
      rw [spelling_enclosed, inside.written]
      rfl
  | argument _ hypothesis =>
      intro gap spaces
      obtain ⟨first, others, written⟩ := hypothesis gap spaces
      exact ⟨first, others, .plain (.named written.type), written.spelled, written.begins,
        written.written⟩
  | nullable _ hypothesis =>
      intro gap spaces
      obtain ⟨first, others, written⟩ := hypothesis gap spaces
      exact ⟨first, _, written.append (.nullable (.named written.type) rfl)
        (List.forall_mem_singleton.mpr (.mark isSpaces_nil .question)) rfl⟩
  | array _ hypothesis =>
      intro gap spaces
      obtain ⟨first, others, written⟩ := hypothesis gap spaces
      have noCommas : ∀ token ∈ ([] : List Token), token.punctuator? = some .comma := by simp
      have array : IsType Token.IsParted .operand
          (first :: others ++ [markToken [] .openBracket, markToken [] .closeBracket]) :=
        .array written.type rfl noCommas rfl
      exact ⟨first, _, written.append (.plain array)
        (spelled_enclosed .openBracket .closeBracket isSpaces_nil (List.forall_mem_nil _)) rfl⟩
  | tuple nonempty _ hypothesis =>
      intro gap spaces
      obtain ⟨next, behind, inside⟩ := exists_writtenTypes nonempty hypothesis isSpaces_nil
      refine ⟨markToken gap .openParenthesis, next :: behind ++ [markToken [] .closeParenthesis],
        .plain (.tuple rfl inside.type rfl),
        spelled_enclosed .openParenthesis .closeParenthesis spaces inside.spelled, rfl, ?_⟩
      rw [spelling_enclosed, inside.written]
      rfl

end InitializerJson
