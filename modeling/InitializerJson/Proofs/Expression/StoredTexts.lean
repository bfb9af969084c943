import InitializerJson.Proofs.Expression.PartPlaces
import InitializerJson.Proofs.Lexical.Tiling

namespace InitializerJson

open Lexical

/-!
# The texts that an expression keeps

What an expression keeps from its source are texts of tokens that follow each other.
A string and a number are kept as their token has them.  Each layer of a reading
keeps such texts, and so does everything that is read inside it.
-/

/-- The texts that an expression keeps itself, those of its parts apart. -/
def Expression.ownTexts : Expression → List String
  | literal (.verbatim text) => [text]
  | invocation callee _ => [callee]
  | creation type _ _ => [type]
  | assignment target _ _ => [target]
  | name text => [text]
  | index text => [text]
  | unsupported text => [text]
  | _ => []

/-- A text is empty or the source text of some of the tokens that follow each other. -/
def IsTextOf
    (tokens : List Token)
    (text : String) :
    Prop :=
  text = "" ∨
    ∃ before run behind,
      tokens = before ++ run ++ behind ∧ run ≠ [] ∧ text = sourceText run

/-- What an expression keeps itself comes from some tokens. -/
structure Expression.KeepsTokens
    (tokens : List Token)
    (expression : Expression) :
    Prop where
  texts : ∀ text ∈ expression.ownTexts, IsTextOf tokens text
  string : ∀ value,
    expression = .literal (.string value) →
    ∃ token ∈ tokens, token.kind = .string value
  number : ∀ number,
    expression = .literal (.number number) →
    ∃ token ∈ tokens, ∃ text negative,
      token.kind = .number text ∧ Number.ofLiteral? text negative = some number

/-- The text between two places is that of the tokens between them. -/
theorem isTextOf_textUpTo
    {whole start rest : List Token}
    (inside : start <:+ whole)
    (behind : rest <:+ start) :
    IsTextOf whole (textUpTo start rest) := by
  by_cases filled : taken start rest = []
  · left
    rw [textUpTo, filled]
    rfl
  · right
    obtain ⟨before, rfl⟩ := inside
    exact ⟨before, taken start rest, rest, by rw [List.append_assoc, taken_append behind], filled,
      rfl⟩

/-- The text of one token is what writes it. -/
theorem isTextOf_of_mem
    {tokens : List Token}
    {token : Token}
    (member : token ∈ tokens)
    (carries : token.CarriesLexeme)
    (verbatim : token.kind.isVerbatim = true) :
    IsTextOf tokens token.kind.text := by
  right
  obtain ⟨before, behind, rfl⟩ := List.append_of_mem member
  refine ⟨before, [token], behind, by simp, by simp, ?_⟩
  rw [sourceText, List.flatMap_nil, List.append_nil, ← carries verbatim, String.ofList_toList]

/-- A text of a later part is a text of the whole. -/
theorem IsTextOf.of_suffix
    {part whole : List Token}
    {text : String}
    (isText : IsTextOf part text)
    (suffix : part <:+ whole) :
    IsTextOf whole text := by
  obtain ⟨front, rfl⟩ := suffix
  rcases isText with empty | ⟨before, run, behind, rfl, filled, shape⟩
  · exact .inl empty
  · exact .inr ⟨front ++ before, run, behind, by simp, filled, shape⟩

namespace Expression

/-- What is kept from a later part is kept from the whole. -/
theorem KeepsTokens.of_suffix
    {part whole : List Token}
    {expression : Expression}
    (keeps : expression.KeepsTokens part)
    (suffix : part <:+ whole) :
    expression.KeepsTokens whole where
  texts text member :=
    (keeps.texts text member).of_suffix suffix
  string value same := by
    obtain ⟨token, member, kind⟩ := keeps.string value same
    exact ⟨token, suffix.subset member, kind⟩
  number number same := by
    obtain ⟨token, member, written⟩ := keeps.number number same
    exact ⟨token, suffix.subset member, written⟩

/-- What is neither a string nor a number only keeps texts. -/
theorem keepsTokens_of_texts
    {tokens : List Token}
    {expression : Expression}
    (noString : ∀ value, expression ≠ .literal (.string value))
    (noNumber : ∀ number, expression ≠ .literal (.number number))
    (texts : ∀ text ∈ expression.ownTexts, IsTextOf tokens text) :
    expression.KeepsTokens tokens where
  texts :=
    texts
  string value same :=
    absurd same (noString value)
  number number same :=
    absurd same (noNumber number)

/-- What keeps one text, and is no literal, keeps nothing else. -/
theorem keepsTokens_of_text
    {tokens : List Token}
    {expression : Expression}
    {text : String}
    (own : expression.ownTexts = [text])
    (isText : IsTextOf tokens text) :
    expression.KeepsTokens tokens := by
  have noString (value : String) : expression ≠ .literal (.string value) := by
    rintro rfl
    cases own
  have noNumber (number : Number) : expression ≠ .literal (.number number) := by
    rintro rfl
    cases own
  apply keepsTokens_of_texts noString noNumber
  rw [own]
  exact List.forall_mem_singleton.mpr isText

/-- A text of no known form is that of the tokens it takes. -/
theorem keepsTokens_unsupportedUpTo
    {whole start rest : List Token}
    (inside : start <:+ whole)
    (behind : rest <:+ start) :
    (unsupportedUpTo start rest).1.KeepsTokens whole :=
  keepsTokens_of_text rfl (isTextOf_textUpTo inside behind)

/-- One token or group of no known form keeps its text. -/
theorem keepsTokens_readUnsupported
    (tokens : List Token) :
    (readUnsupported tokens).1.KeepsTokens tokens := by
  have whole := List.suffix_refl tokens
  unfold readUnsupported
  split
  · exact keepsTokens_unsupportedUpTo whole (afterGroup_suffix 0 tokens)
  · split
    · exact keepsTokens_unsupportedUpTo whole whole
    · exact keepsTokens_unsupportedUpTo whole (List.tail_suffix tokens)

/-- A numeral is kept as a number or as its text. -/
theorem keepsTokens_numberUpTo
    {text : String}
    {negative : Bool}
    {start rest : List Token}
    {token : Token}
    (member : token ∈ start)
    (kind : token.kind = .number text)
    (behind : rest <:+ start) :
    (numberUpTo text negative start rest).1.KeepsTokens start := by
  unfold numberUpTo
  split
  · next number written =>
      refine ⟨by simp [ownTexts], by simp, fun other same => ?_⟩
      cases same
      exact ⟨token, member, text, negative, kind, written⟩
  · exact keepsTokens_unsupportedUpTo (List.suffix_refl start) behind

/-- What begins with a minus sign keeps a number or its text. -/
theorem keepsTokens_readNegative
    (tokens : List Token) :
    (readNegative tokens).1.KeepsTokens tokens := by
  unfold readNegative
  split
  · exact keepsTokens_readUnsupported tokens
  · next token rest shape =>
      split
      · next text kind =>
          have member : token ∈ tokens :=
            (List.tail_suffix tokens).subset (by rw [shape]; exact List.mem_cons_self)
          have behind : rest <:+ tokens :=
            (List.suffix_cons token rest).trans (shape ▸ List.tail_suffix tokens)
          exact keepsTokens_numberUpTo member kind behind
      · exact keepsTokens_readUnsupported tokens

/-- The name of a type is the text of its tokens. -/
theorem isTextOf_named
    {tokens rest : List Token}
    {type : String}
    (read : readDeclaredType tokens = (.named type, rest)) :
    IsTextOf tokens type := by
  have tail := (readTypeTail_suffix tokens.tail).trans (List.tail_suffix tokens)
  unfold readDeclaredType at read
  split at read
  · cases read
  · split at read
    · cases read
    · next behind shape =>
        rw [shape] at tail
        simp only at read
        split at read
        · cases read
        · cases read
          exact isTextOf_textUpTo (List.suffix_refl tokens)
            ((skipOptional_suffix .question behind).trans tail)

/-- A creation keeps the name of its type, or its text if it has none. -/
theorem keepsTokens_readCreation
    (inner : Reader Expression)
    (tokens : List Token) :
    (readCreation inner tokens).1.KeepsTokens tokens := by
  have whole := List.suffix_refl tokens
  have tail := List.tail_suffix tokens
  have declared := (readDeclaredType_suffix tokens.tail).trans tail
  unfold readCreation
  simp only
  split
  · exact keepsTokens_of_texts (by simp) (by simp) (by simp [ownTexts])
  · split
    · exact keepsTokens_unsupportedUpTo whole
        ((skipOptionalGroup_suffix _ _).trans ((afterGroup_suffix 0 _).trans tail))
    · split
      · next rest read =>
          rw [read] at declared
          exact keepsTokens_unsupportedUpTo whole declared
      · next rest read =>
          rw [read] at declared
          exact keepsTokens_unsupportedUpTo whole
            ((skipOptionalGroup_suffix _ _).trans declared)
      · next type rest read =>
          exact keepsTokens_of_text rfl ((isTextOf_named read).of_suffix tail)

/-- A chain keeps its text, or that of the callee. -/
theorem keepsTokens_readChain
    (inner : Reader Expression)
    {start tokens : List Token}
    {last : ChainEnd}
    (inside : tokens <:+ start)
    (called : ∀ opening arguments, last = .call opening arguments → opening <:+ start) :
    (readChain inner start last tokens).1.KeepsTokens start := by
  have whole := List.suffix_refl start
  fun_induction readChain inner start last tokens with
  | case1 last tokens member hypothesis =>
      exact hypothesis
        (((List.tail_suffix tokens.tail).trans (List.tail_suffix tokens)).trans inside) (by simp)
  | case2 last tokens noMember call arguments behind reading hypothesis =>
      have suffix := readArguments_suffix inner tokens.tail
      rw [reading] at suffix
      refine hypothesis ((suffix.trans (List.tail_suffix tokens)).trans inside) ?_
      intro opening others same
      cases same
      exact inside
  | case3 last tokens noMember noCall access hypothesis =>
      exact hypothesis ((afterGroup_suffix 0 tokens).trans inside) (by simp)
  | case4 last tokens noMember noCall noAccess =>
      cases last with
      | member => exact keepsTokens_of_text rfl (isTextOf_textUpTo whole inside)
      | call opening arguments =>
          exact keepsTokens_of_text rfl
            (isTextOf_textUpTo whole (called opening arguments rfl))
      | access => exact keepsTokens_of_text rfl (isTextOf_textUpTo whole inside)

/-- What begins with a word keeps texts. -/
theorem keepsTokens_readWord
    (inner : Reader Expression)
    {word : String}
    {token : Token}
    {rest : List Token}
    (carries : token.CarriesLexeme)
    (kind : token.kind = .identifier word) :
    (readWord inner word (token :: rest)).1.KeepsTokens (token :: rest) := by
  unfold readWord
  split
  · exact keepsTokens_of_texts (by simp) (by simp) (by simp [ownTexts])
  split
  · exact keepsTokens_of_texts (by simp) (by simp) (by simp [ownTexts])
  split
  · exact keepsTokens_of_texts (by simp) (by simp) (by simp [ownTexts])
  split
  · apply keepsTokens_of_texts (by simp) (by simp)
    have text := isTextOf_of_mem (List.mem_cons_self (l := rest)) carries (by rw [kind]; rfl)
    rw [kind] at text
    exact List.forall_mem_singleton.mpr text
  split
  · exact keepsTokens_readCreation inner _
  · split
    · exact keepsTokens_readChain inner (List.suffix_cons token rest) nofun
    · exact keepsTokens_readUnsupported _

/-- An expression without operators keeps texts, a string or a number. -/
theorem keepsTokens_readPrimary
    (inner : Reader Expression)
    {tokens : List Token}
    (carries : ∀ token ∈ tokens, token.CarriesLexeme) :
    (readPrimary inner tokens).1.KeepsTokens tokens := by
  unfold readPrimary
  split
  · exact keepsTokens_of_text rfl (.inl rfl)
  · next token rest =>
      have first : token ∈ token :: rest := List.mem_cons_self
      have here := carries token first
      split
      · next text kind => exact keepsTokens_numberUpTo first kind (List.suffix_cons token rest)
      · next value kind =>
          refine ⟨by simp [ownTexts], fun other same => ?_, by simp⟩
          cases same
          exact ⟨token, first, kind⟩
      · next text kind =>
          apply keepsTokens_of_texts (by simp) (by simp)
          have isText := isTextOf_of_mem first here (by rw [kind]; rfl)
          rw [kind] at isText
          exact List.forall_mem_singleton.mpr isText
      · next word kind => exact keepsTokens_readWord inner here kind
      · exact keepsTokens_readNegative _
      · exact keepsTokens_of_texts (by simp) (by simp) (by simp [ownTexts])
      · exact keepsTokens_of_text rfl
          (isTextOf_textUpTo (List.suffix_refl _) (afterGroup_suffix 0 _))
      · exact keepsTokens_readUnsupported _

/-- An expression with what follows it keeps texts, a string or a number. -/
theorem keepsTokens_readOperation
    (inner : Reader Expression)
    {tokens : List Token}
    (carries : ∀ token ∈ tokens, token.CarriesLexeme) :
    (readOperation inner tokens).1.KeepsTokens tokens := by
  have whole := List.suffix_refl tokens
  have primary := keepsTokens_readPrimary inner carries
  have behind := readPrimary_suffix inner tokens
  unfold readOperation
  simp only
  split
  · exact keepsTokens_of_text rfl (isTextOf_textUpTo whole behind)
  · split
    · exact primary
    · exact keepsTokens_unsupportedUpTo whole ((fromDelimiter_suffix 0 _).trans behind)

/-- Everything inside an expression that is read keeps texts of its tokens. -/
theorem keepsTokens_read
    (room : Nat)
    {tokens : List Token}
    (carries : ∀ token ∈ tokens, token.CarriesLexeme)
    {expression : Expression}
    (within : expression.IsWithin ((expressionReader room).read tokens).1) :
    expression.KeepsTokens tokens := by
  induction room generalizing tokens with
  | zero =>
      rcases isWithin_iff.mp within with rfl | ⟨part, isPart, _⟩
      · exact keepsTokens_unsupportedUpTo (List.suffix_refl tokens) (fromDelimiter_suffix 0 tokens)
      · cases isPart
  | succ room hypothesis =>
      rcases isWithin_iff.mp within with rfl | ⟨part, isPart, inPart⟩
      · exact keepsTokens_readOperation _ carries
      · obtain ⟨place, member, rfl⟩ := List.mem_map.mp (mem_parts_readOperation isPart)
        have suffix := suffix_of_mem_operationPlaces member
        exact (hypothesis (fun token inside => carries token (suffix.subset inside)) inPart).of_suffix
          suffix

end Expression

end InitializerJson
