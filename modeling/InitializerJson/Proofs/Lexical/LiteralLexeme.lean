import InitializerJson.Proofs.Lexical.NumeralLexeme
import InitializerJson.Proofs.Lexical.TextLexeme
import InitializerJson.Proofs.Lexical.Tiling

namespace InitializerJson.Lexical

open Character

/-!
# Literals where they end

A literal, or a word, is read again from its characters wherever it ends: before all that
is neither a quote nor goes on as a word or a numeral.
-/

/-- Neither a quote follows nor anything that goes on as a word or a numeral. -/
structure EndsLiteral
    (rest : List Char) :
    Prop where
  notQuote : rest.head? ≠ some '"'
  endsRun : EndsRun continuesNumeral rest

/-- Some characters are read as one token wherever a literal ends behind them. -/
def IsClosedLexeme
    (kind : TokenKind)
    (lexeme : List Char) :
    Prop :=
  ∀ rest, EndsLiteral rest → IsLexeme kind lexeme rest

/-! ## Quoted texts -/

/-- Raw text is closed. -/
theorem isClosedLexeme_rawText
    {text : List Char}
    {read : List Char × List Char}
    (found : rawText? text = some read) :
    ∃ lexeme,
      text = lexeme ++ read.2 ∧ IsClosedLexeme (.string (String.ofList read.1)) lexeme := by
  obtain ⟨lexeme, shape, again⟩ := rawText?_extent found
  refine ⟨'"' :: lexeme, shape, ?_⟩
  intro rest _
  apply isLexeme_of_readKind? (by decide) (by decide) (by decide)
  rw [readKind?, again rest]
  rfl

/-- Interpolated text is closed. -/
theorem isClosedLexeme_interpolatedText
    {text rest : List Char}
    (found : afterInterpolatedText? text = some rest) :
    ∃ lexeme,
      text = lexeme ++ rest ∧ IsClosedLexeme (.interpolated (String.ofList lexeme)) lexeme := by
  obtain ⟨first, others, shape, begins, again⟩ := afterInterpolatedText?_extent found
  refine ⟨first :: others, shape, ?_⟩
  intro behind ends
  have outside : ∀ mark : Char, mark ≠ '$' → mark ≠ '@' → first ≠ mark := by
    rintro mark notDollar notAt rfl
    exact begins.elim notDollar notAt
  have notBlank : isBlank first = false := by
    rcases begins with rfl | rfl <;> decide
  apply isLexeme_of_readKind? notBlank (outside '/' (by decide) (by decide))
    (outside '#' (by decide) (by decide))
  have noRaw : rawText? (first :: others ++ behind) = none := by
    simp [rawText?, outside '"' (by decide) (by decide)]
  rw [readKind?, noRaw, again behind ends.notQuote, Option.map_some, asWritten,
    taken_append_left]
  rfl

/-- Verbatim text is closed. -/
theorem isClosedLexeme_verbatimText
    {text : List Char}
    {read : List Char × List Char}
    (found : verbatimText? text = some read) :
    ∃ lexeme,
      text = lexeme ++ read.2 ∧ IsClosedLexeme (.string (String.ofList read.1)) lexeme := by
  unfold verbatimText? at found
  split at found
  · rw [eq_flatMap_of_verbatimBody? found]
    exact ⟨_, by simp, fun rest ends => IsTextLiteral.verbatim.isLexeme ends.notQuote⟩
  · cases found

/-- Regular text is closed. -/
theorem isClosedLexeme_regularText
    {text : List Char}
    {read : List Char × List Char}
    (found : regularText? text = some read) :
    ∃ lexeme,
      text = lexeme ++ read.2 ∧ IsClosedLexeme (.string (String.ofList read.1)) lexeme := by
  unfold regularText? at found
  split at found
  · obtain ⟨body, rfl, filled, front, again⟩ := regularBody?_extent found
    refine ⟨'"' :: body, rfl, ?_⟩
    intro rest ends
    apply isLexeme_of_readKind? (by decide) (by decide) (by decide)
    have noRaw : rawText? ('"' :: (body ++ rest)) = none :=
      rawText?_of_fewQuotes front filled ends.notQuote
    have regular : regularText? ('"' :: (body ++ rest)) = some (read.1, rest) :=
      again rest
    rw [List.cons_append, readKind?, noRaw, regular]
    simp [afterInterpolatedText?, verbatimText?, asText]
  · cases found

/-- A character literal is closed. -/
theorem isClosedLexeme_characterLiteral
    {text rest : List Char}
    (found : afterCharacterLiteral? text = some rest) :
    ∃ lexeme,
      text = lexeme ++ rest ∧ IsClosedLexeme (.character (String.ofList lexeme)) lexeme := by
  obtain ⟨body, shape, again⟩ := afterCharacterLiteral?_extent found
  have literal : IsCharacterLiteral ('\'' :: body) := by
    have whole := again []
    rwa [List.append_nil] at whole
  exact ⟨'\'' :: body, shape, fun behind _ => literal.isLexeme behind⟩

/-! ## Numerals and words -/

/-- A numeral is closed. -/
theorem isClosedLexeme_numeral
    {text rest : List Char}
    (found : afterNumeral? text = some rest) :
    ∃ lexeme,
      text = lexeme ++ rest ∧ IsClosedLexeme (.number (String.ofList lexeme)) lexeme := by
  obtain ⟨numeral, shape, written⟩ := exists_numeralText found
  exact ⟨numeral, shape, fun behind ends => written.isLexeme ends.endsRun⟩

/-- An identifier is closed. -/
theorem isClosedLexeme_identifier
    {text rest : List Char}
    (found : afterIdentifier? text = some rest) :
    ∃ lexeme,
      text = lexeme ++ rest ∧ IsClosedLexeme (.identifier (String.ofList lexeme)) lexeme := by
  obtain ⟨word, shape, isWord⟩ := exists_word_of_afterIdentifier? found
  exact ⟨word, shape, fun behind ends => isWord.isLexeme (endsRun_continuesIdentifier ends.endsRun)⟩

/-! ## Literals and words -/

/-- Texts, numerals and words are no punctuators, and no unknown characters. -/
def TokenKind.isLiteral : TokenKind → Bool
  | punctuator _ => false
  | unknown _ => false
  | _ => true

/-- A literal that is read is read again where it ends. -/
theorem exists_isClosedLexeme
    {text rest : List Char}
    {kind : TokenKind}
    (isLiteral : kind.isLiteral = true)
    (found : readKind? text = some (kind, rest)) :
    ∃ lexeme, text = lexeme ++ rest ∧ IsClosedLexeme kind lexeme := by
  simp only [readKind?, Option.or_eq_some_iff, Option.map_eq_some_iff, Option.map_eq_none_iff]
    at found
  rcases found with
    ⟨read, raw, shape⟩ | ⟨_, ⟨behind, interpolated, shape⟩ | ⟨_, ⟨read, verbatim, shape⟩ |
    ⟨_, ⟨read, regular, shape⟩ | ⟨_, ⟨behind, character, shape⟩ | ⟨_, ⟨behind, numeral, shape⟩ |
    ⟨_, ⟨behind, identifier, shape⟩ | ⟨_, ⟨read, _, shape⟩ | ⟨_, ⟨read, _, shape⟩⟩⟩⟩⟩⟩⟩⟩⟩
  · cases shape
    exact isClosedLexeme_rawText raw
  · cases shape
    obtain ⟨lexeme, rfl, closed⟩ := isClosedLexeme_interpolatedText interpolated
    exact ⟨lexeme, rfl, by rwa [taken_append_left]⟩
  · cases shape
    exact isClosedLexeme_verbatimText verbatim
  · cases shape
    exact isClosedLexeme_regularText regular
  · cases shape
    obtain ⟨lexeme, rfl, closed⟩ := isClosedLexeme_characterLiteral character
    exact ⟨lexeme, rfl, by rwa [taken_append_left]⟩
  · cases shape
    obtain ⟨lexeme, rfl, closed⟩ := isClosedLexeme_numeral numeral
    exact ⟨lexeme, rfl, by rwa [taken_append_left]⟩
  · cases shape
    obtain ⟨lexeme, rfl, closed⟩ := isClosedLexeme_identifier identifier
    exact ⟨lexeme, rfl, by rwa [taken_append_left]⟩
  · cases shape
    cases isLiteral
  · cases shape
    cases isLiteral

/-- The literals and words of a text are read again where they end. -/
theorem isClosedLexeme_readTokens
    (text : List Char) :
    ∀ token ∈ (readTokens text).tokens,
      token.kind.isLiteral = true → IsClosedLexeme token.kind token.lexeme := by
  fun_induction readTokens text with
  | case1 => simp
  | case2 text start kind rest found run hypothesis =>
      refine List.forall_mem_cons.mpr ⟨fun isLiteral => ?_, hypothesis⟩
      obtain ⟨lexeme, shape, closed⟩ :=
        exists_isClosedLexeme isLiteral (readKind?_of_readBehindGap? found)
      have lexemeShape : taken start rest = lexeme := by
        rw [show start = lexeme ++ rest from shape, taken_append_left]
      rw [lexemeShape]
      exact closed

/-- What is read as a numeral begins with a digit or a point. -/
theorem exists_first_of_number
    {text : String}
    {lexeme rest : List Char}
    (isLexeme : IsLexeme (.number text) lexeme rest) :
    ∃ first others, lexeme = first :: others ∧ (first.isDigit = true ∨ first = '.') := by
  have found := readKind?_of_readBehindGap? isLexeme.read
  have numeral : afterNumeral? (lexeme ++ rest) = some rest := by
    simp only [readKind?, Option.or_eq_some_iff, Option.map_eq_some_iff] at found
    rcases found with
      ⟨_, _, shape⟩ | ⟨_, ⟨_, _, shape⟩ | ⟨_, ⟨_, _, shape⟩ | ⟨_, ⟨_, _, shape⟩ |
      ⟨_, ⟨_, _, shape⟩ | ⟨_, ⟨behind, numeral, shape⟩ | ⟨_, ⟨_, _, shape⟩ | ⟨_, ⟨_, _, shape⟩ |
      ⟨_, ⟨_, _, shape⟩⟩⟩⟩⟩⟩⟩⟩⟩
    case inr.inr.inr.inr.inr.inl =>
      cases shape
      exact numeral
    all_goals cases shape
  obtain ⟨numeral, shape, written⟩ := exists_numeralText numeral
  rw [List.append_cancel_right shape]
  exact written.exists_first

end InitializerJson.Lexical
