import InitializerJson.Proofs.Lexical.LiteralExtent

namespace InitializerJson.Lexical

open Character

/-!
# Quoted texts are read back

A text is written as a regular literal by escaping its quotes, backslashes and
line feeds.  It is read back as that text unless another quote follows, which
could make the literal raw.  A character literal is read back as written.
-/

/-- A character as it stands inside a regular literal. -/
def escapeRegular
    (character : Char) :
    List Char :=
  if character = '"' then
    ['\\', '"']
  else if character = '\\' then
    ['\\', '\\']
  else if character = '\n' then
    ['\\', 'n']
  else
    [character]

/-- A text as a regular literal. -/
def regularLiteral
    (value : List Char) :
    List Char :=
  '"' :: (value.flatMap escapeRegular ++ ['"'])

/-- A regular literal escapes its text in one of the ways to write it. -/
theorem encodesText_flatMap
    (value : List Char) :
    EncodesText value (value.flatMap escapeRegular ++ ['"']) := by
  induction value with
  | nil => exact .nil
  | cons character value hypothesis =>
      rw [List.flatMap_cons, List.append_assoc]
      refine .cons ?_ hypothesis
      unfold escapeRegular
      split
      · next quote =>
          subst quote
          exact .mark rfl
      · next notQuote =>
          split
          · next backslash =>
              subst backslash
              exact .mark rfl
          · next notBackslash =>
              split
              · next lineFeed =>
                  subst lineFeed
                  exact .mark rfl
              · next notLineFeed => exact .plain notQuote notBackslash notLineFeed

/-- A text is read back from its regular literal. -/
theorem isLexeme_regularLiteral
    (value : List Char)
    {rest : List Char}
    (ends : rest.head? ≠ some '"') :
    IsLexeme (.string (String.ofList value)) (regularLiteral value) rest :=
  (IsTextLiteral.regular (encodesText_flatMap value)).isLexeme ends

/-- A text that is one character literal. -/
def IsCharacterLiteral
    (text : List Char) :
    Prop :=
  afterCharacterLiteral? text = some []

instance (text : List Char) :
    Decidable (IsCharacterLiteral text) :=
  inferInstanceAs (Decidable (_ = _))

/-- A character literal is read up to its end, whatever follows. -/
theorem IsCharacterLiteral.afterCharacterLiteral?_append
    {text : List Char}
    (literal : IsCharacterLiteral text)
    (rest : List Char) :
    afterCharacterLiteral? (text ++ rest) = some rest := by
  obtain ⟨body, shape, again⟩ := afterCharacterLiteral?_extent literal
  rw [List.append_nil] at shape
  rw [shape]
  exact again rest

/-- A character literal is read back as written. -/
theorem IsCharacterLiteral.isLexeme
    {text : List Char}
    (literal : IsCharacterLiteral text)
    (rest : List Char) :
    IsLexeme (.character (String.ofList text)) text rest := by
  have read := literal.afterCharacterLiteral?_append rest
  have front : ∃ body, text = '\'' :: body := by
    unfold IsCharacterLiteral afterCharacterLiteral? at literal
    split at literal
    · next body => exact ⟨body, rfl⟩
    · cases literal
  obtain ⟨body, rfl⟩ := front
  apply isLexeme_of_readKind? (by decide) (by decide) (by decide)
  have lexeme : taken ('\'' :: body ++ rest) rest = '\'' :: body :=
    taken_append_left _ rest
  have written :
      asWritten .character ('\'' :: body ++ rest) rest =
        (.character (String.ofList ('\'' :: body)), rest) := by
    rw [asWritten, lexeme]
  rw [readKind?, read, Option.map_some, written]
  simp [rawText?, afterInterpolatedText?, verbatimText?, regularText?]

end InitializerJson.Lexical
