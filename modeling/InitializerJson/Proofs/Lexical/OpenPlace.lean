import InitializerJson.Proofs.Lexical.Spelling
import InitializerJson.Proofs.Lexical.Tiling

namespace InitializerJson.Lexical

open Character

/-!
# Where reading stops

A source that cannot be read as tokens is read up to some place.  Nothing is lost
before it: gaps and tokens lead up to it as they would up to the end.  At that place
stands a quote, an apostrophe, or a block comment without an end, and the error
names the place by its line and column.
-/

/-! ## Up to the place -/

/--
Some tokens lead up to the rest of a text: complete pieces of a gap stand before each
of them and before the rest, and each token is what is read at its place.
-/
inductive LeadsTo
    (rest : List Char) :
    List Token → List Char → Prop where
  | nil
      {gap : List Char} :
      GapText gap rest →
      LeadsTo rest [] (gap ++ rest)
  | cons
      {token : Token}
      {tokens : List Token}
      {behind : List Char} :
      GapText token.gap (token.lexeme ++ behind) →
      IsLexeme token.kind token.lexeme behind →
      LeadsTo rest tokens behind →
      LeadsTo rest (token :: tokens) (token.gap ++ (token.lexeme ++ behind))

/-- The tokens that are read lead up to what is left, be it nothing or not. -/
theorem leadsTo_readTokens
    (text : List Char) :
    LeadsTo (readTokens text).rest (readTokens text).tokens text := by
  fun_induction readTokens text with
  | case1 text start found =>
      have led : LeadsTo start [] (taken text start ++ start) :=
        .nil (gapText_afterGap text)
      rwa [taken_append (afterGap_suffix text)] at led
  | case2 text start kind rest found run hypothesis =>
      have lexemeShape : taken start rest ++ rest = start :=
        taken_append (readBehindGap?_properSuffix found).suffix
      have gap : GapText (taken text start) (taken start rest ++ rest) := by
        rw [lexemeShape]
        exact gapText_afterGap text
      have isLexeme : IsLexeme kind (taken start rest) rest := by
        refine ⟨?_, ?_⟩
        · rw [lexemeShape]
          exact solid_afterGap text
        · rw [lexemeShape]
          exact found
      have led :
          LeadsTo run.rest (⟨kind, taken text start, taken start rest⟩ :: run.tokens)
            (taken text start ++ (taken start rest ++ rest)) :=
        .cons gap isLexeme hypothesis
      rwa [lexemeShape, taken_append (afterGap_suffix text)] at led

/-- A lexeme has a first character, which is no blank. -/
theorem IsLexeme.exists_first
    {kind : TokenKind}
    {lexeme rest : List Char}
    (isLexeme : IsLexeme kind lexeme rest) :
    ∃ first others, lexeme = first :: others ∧ isBlank first = false := by
  cases lexeme with
  | nil =>
      have proper := readBehindGap?_properSuffix isLexeme.read
      exact absurd proper.shorter (Nat.lt_irrefl _)
  | cons first others => exact ⟨first, others, rfl, isBlank_of_solid isLexeme.solid⟩

/-- A token carries its characters, if it is read from them and kept as written. -/
theorem Token.carriesLexeme_of_isLexeme
    {token : Token}
    {rest : List Char}
    (isLexeme : IsLexeme token.kind token.lexeme rest) :
    token.CarriesLexeme := by
  intro verbatim
  have carries := readBehindGap?_carries isLexeme.read verbatim
  rwa [taken_append_left] at carries

/-- Tokens that lead up to a rest cover what stands before it, if the rest is no part of a gap. -/
theorem LeadsTo.exists_covers
    {first : Char}
    {others text : List Char}
    {tokens : List Token}
    (leads : LeadsTo (first :: others) tokens text)
    (notBlank : isBlank first = false) :
    ∃ before, text = before ++ first :: others ∧ Covers tokens before := by
  induction leads with
  | @nil gap complete => exact ⟨gap, rfl, .nil (complete.of_solid notBlank [])⟩
  | @cons token tokens behind complete isLexeme _ hypothesis =>
      obtain ⟨before, rfl, covers⟩ := hypothesis
      obtain ⟨initial, more, shape, solid⟩ := isLexeme.exists_first
      have filled : token.lexeme ≠ [] := by
        rw [shape]
        exact List.cons_ne_nil initial more
      have gap : GapText token.gap (token.lexeme ++ before) := by
        rw [shape, List.cons_append] at complete
        exact complete.of_solid solid _
      exact ⟨token.gap ++ token.lexeme ++ before, by simp only [List.append_assoc],
        .cons gap filled (Token.carriesLexeme_of_isLexeme isLexeme) covers⟩

/-! ## The place -/

/-- What is left behind the tokens of a text begins neither a gap nor a token. -/
theorem unread_rest
    (text : List Char) :
    afterGapPiece? (readTokens text).rest = none ∧
      readBehindGap? (readTokens text).rest = none := by
  fun_induction readTokens text with
  | case1 text start found => exact ⟨solid_afterGap text, found⟩
  | case2 text start kind rest found run hypothesis => exact hypothesis

/-- What opens a text and is not closed in it, with the message that says so. -/
inductive IsOpening : List Char → String → Prop where
  | blockComment
      {body : List Char} :
      ¬ ['*', '/'] <:+: body →
      IsOpening ('/' :: '*' :: body) "unterminated block comment"
  | characterLiteral
      {body : List Char} :
      IsOpening ('\'' :: body) "unterminated character literal"
  | stringLiteral
      {body : List Char} :
      IsOpening ('"' :: body) "unterminated string literal"

/-- Where nothing can be read, something opens that is not closed. -/
theorem isOpening_of_unread
    {rest : List Char}
    (solid : afterGapPiece? rest = none)
    (unread : readBehindGap? rest = none)
    (left : rest ≠ []) :
    IsOpening rest (Unterminated.ofRest rest).detail := by
  unfold readBehindGap? at unread
  split at unread
  · next comment =>
      unfold beginsComment at comment
      split at comment
      · next body =>
          have open_ : splitAtMark? ['*', '/'] body = none :=
            Option.map_eq_none_iff.mp solid
          exact .blockComment (not_infix_of_splitAtMark?_eq_none (by simp) open_)
      · cases comment
  · obtain ⟨first, others, rfl⟩ := List.exists_cons_of_ne_nil left
    -- Every character but the two quotes is a token if it begins no other.
    have lone : unknown? (first :: others) = none := by
      simp only [readKind?, Option.or_eq_none_iff, Option.map_eq_none_iff] at unread
      exact unread.2.2.2.2.2.2.2.2
    have quotes : first = '"' ∨ first = '\'' :=
      Decidable.or_iff_not_imp_left.mpr (by simpa [unknown?] using lone)
    rcases quotes with rfl | rfl
    · exact .stringLiteral
    · exact .characterLiteral

/-- A source is refused exactly when something is left, with what is left as the cause. -/
theorem tokenize_eq_error_iff
    {source : String}
    {error : SyntaxError} :
    tokenize source = .error error ↔
      (readTokens source.toList).rest ≠ [] ∧
        error =
          ⟨Position.after (taken source.toList (readTokens source.toList).rest),
            Unterminated.ofRest (readTokens source.toList).rest⟩ := by
  unfold tokenize
  simp only
  split
  · next complete => simp [List.isEmpty_iff.mp complete]
  · next incomplete =>
      have left : (readTokens source.toList).rest ≠ [] := by
        simpa using incomplete
      simp [left, eq_comm]

/--
A source that is refused is cut between two characters at the place of the error: what
stands before is tiled by gaps and tokens, and what follows opens with what the message
says, which is not closed.
-/
theorem exists_opening_of_tokenize
    {source : String}
    {error : SyntaxError}
    (failed : tokenize source = .error error) :
    ∃ before rest tokens,
      source.toList = before ++ rest ∧
        Position.ofOffset? source (byteLength before) = some error.position ∧
        LeadsTo rest tokens source.toList ∧
        TilesFrom before 0 (placeTokens tokens) ∧
        IsOpening rest error.cause.detail := by
  obtain ⟨left, rfl⟩ := tokenize_eq_error_iff.mp failed
  have leads := leadsTo_readTokens source.toList
  obtain ⟨solid, unread⟩ := unread_rest source.toList
  generalize (readTokens source.toList).rest = rest at left leads solid unread ⊢
  have opening := isOpening_of_unread solid unread left
  obtain ⟨first, others, rfl⟩ := List.exists_cons_of_ne_nil left
  obtain ⟨before, shape, covers⟩ := leads.exists_covers (isBlank_of_solid solid)
  refine ⟨before, first :: others, _, shape, ?_, leads,
    covers.tilesFrom [] Position.start, opening⟩
  rw [Position.ofOffset?, shape, charactersBefore?_byteLength, taken_append_left]
  rfl

/-- A comment, a literal and an unknown mark stand before a literal that is not closed. -/
theorem exists_opening_of_tokenize_mark :
    tokenize "é/*\n*/ \"ü\" #x\n$\"\x7b" = .error ⟨⟨3, 2⟩, .stringLiteral⟩ ∧
      ∃ before rest tokens,
        "é/*\n*/ \"ü\" #x\n$\"\x7b".toList = before ++ rest ∧
          Position.ofOffset? "é/*\n*/ \"ü\" #x\n$\"\x7b" (byteLength before) = some ⟨3, 2⟩ ∧
          LeadsTo rest tokens "é/*\n*/ \"ü\" #x\n$\"\x7b".toList ∧
          TilesFrom before 0 (placeTokens tokens) ∧
          IsOpening rest Unterminated.stringLiteral.detail := by
  have failed : tokenize "é/*\n*/ \"ü\" #x\n$\"\x7b" = .error ⟨⟨3, 2⟩, .stringLiteral⟩ :=
    tokenize_eq_error_iff.mpr (by decide +kernel)
  exact ⟨failed, exists_opening_of_tokenize failed⟩

end InitializerJson.Lexical
