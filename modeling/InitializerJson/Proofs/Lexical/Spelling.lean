import InitializerJson.Lexical.TokenRun

namespace InitializerJson.Lexical

open Character

/-!
# Spelling tokens

Tokens are spelled by their gaps and characters.  Whether they are read back
from that spelling depends on what follows, one token at a time: an identifier
must not go on in the next character, and an operator must not become a longer
one.  `Spells` says of which texts some tokens are read back, and composes.
-/

/-- The characters that write some tokens, gaps included. -/
def spelling
    (tokens : List Token) :
    List Char :=
  tokens.flatMap fun token => token.gap ++ token.lexeme

@[simp] theorem spelling_nil :
    spelling [] = [] := by
  rfl

@[simp] theorem spelling_cons
    (token : Token)
    (tokens : List Token) :
    spelling (token :: tokens) =
      token.gap ++ (token.lexeme ++ spelling tokens) := by
  simp [spelling]

@[simp] theorem spelling_append
    (first second : List Token) :
    spelling (first ++ second) = spelling first ++ spelling second := by
  simp [spelling]

/-- Some characters are read as one token of a kind when `rest` follows them. -/
structure IsLexeme
    (kind : TokenKind)
    (lexeme rest : List Char) :
    Prop where
  solid : afterGapPiece? (lexeme ++ rest) = none
  read : readBehindGap? (lexeme ++ rest) = some (kind, rest)

/-- A gap of spaces only. -/
def IsSpaces
    (gap : List Char) :
    Prop :=
  ∀ character ∈ gap, character = ' '

/-- A token is read back from its spelling when `rest` follows it. -/
structure Token.IsReadBack
    (token : Token)
    (rest : List Char) :
    Prop where
  gap : IsSpaces token.gap
  lexeme : IsLexeme token.kind token.lexeme rest

/-- Some tokens are read back from their spelling when `rest` follows them. -/
def AreReadBack : List Token → List Char → Prop
  | [], _ => True
  | token :: tokens, rest =>
      token.IsReadBack (spelling tokens ++ rest) ∧ AreReadBack tokens rest

/-- Tokens are read back one part after the other. -/
theorem areReadBack_append
    {first second : List Token}
    {rest : List Char} :
    AreReadBack (first ++ second) rest ↔
      AreReadBack first (spelling second ++ rest) ∧ AreReadBack second rest := by
  induction first with
  | nil => simp [AreReadBack]
  | cons token tokens hypothesis =>
      simp [AreReadBack, hypothesis, and_assoc]

/-- A gap ends before what begins no piece of a gap. -/
theorem afterGap_of_solid
    {text : List Char}
    (solid : afterGapPiece? text = none) :
    afterGap text = text := by
  rw [afterGap]
  split
  · next rest piece =>
      rw [solid] at piece
      cases piece
  · rfl

/-- A gap goes on behind its first piece. -/
theorem afterGap_of_piece
    {text rest : List Char}
    (piece : afterGapPiece? text = some rest) :
    afterGap text = afterGap rest := by
  rw [afterGap]
  split
  · next behind found =>
      rw [piece] at found
      cases found
      rfl
  · next none =>
      rw [piece] at none
      cases none

/-- A gap of spaces is passed over. -/
theorem afterGap_of_isSpaces
    {gap text : List Char}
    (spaces : IsSpaces gap)
    (solid : afterGapPiece? text = none) :
    afterGap (gap ++ text) = text := by
  induction gap with
  | nil => exact afterGap_of_solid solid
  | cons character gap hypothesis =>
      obtain ⟨rfl, others⟩ := List.forall_mem_cons.mp spaces
      have passed : afterGapPiece? (' ' :: (gap ++ text)) = some (gap ++ text) := by
        simp [afterGapPiece?, isBlank, isWhiteSpace, inTable, whiteSpaceRanges]
      exact (afterGap_of_piece passed).trans (hypothesis others)

/-- Nothing is read where no token stands behind the gap. -/
theorem readTokens_of_unread
    {text : List Char}
    (unread : readBehindGap? (afterGap text) = none) :
    readTokens text = ⟨[], taken text (afterGap text), afterGap text⟩ := by
  rw [readTokens]
  split
  · rfl
  · next found =>
      rw [unread] at found
      cases found

/-- Reading goes on behind the token that stands behind the gap. -/
theorem readTokens_of_read
    {text rest : List Char}
    {kind : TokenKind}
    (read : readBehindGap? (afterGap text) = some (kind, rest)) :
    readTokens text =
      ⟨⟨kind, taken text (afterGap text), taken (afterGap text) rest⟩ :: (readTokens rest).tokens,
        (readTokens rest).gap, (readTokens rest).rest⟩ := by
  rw [readTokens]
  split
  · next none =>
      rw [read] at none
      cases none
  · next found =>
      rw [read] at found
      cases found
      rfl

/-- What is left behind the tokens of a text ends it. -/
theorem rest_suffix
    (text : List Char) :
    (readTokens text).rest <:+ text := by
  fun_induction readTokens text with
  | case1 text start found => exact afterGap_suffix text
  | case2 text start kind rest found run hypothesis =>
      exact (hypothesis.trans (readBehindGap?_properSuffix found).suffix).trans
        (afterGap_suffix text)

/-- Reading goes on behind a token that is read back. -/
theorem readTokens_of_isReadBack
    {token : Token}
    {rest : List Char}
    (readBack : token.IsReadBack rest) :
    readTokens (token.gap ++ (token.lexeme ++ rest)) =
      ⟨token :: (readTokens rest).tokens, (readTokens rest).gap,
        (readTokens rest).rest⟩ := by
  have start : afterGap (token.gap ++ (token.lexeme ++ rest)) = token.lexeme ++ rest :=
    afterGap_of_isSpaces readBack.gap readBack.lexeme.solid
  have read :
      readBehindGap? (afterGap (token.gap ++ (token.lexeme ++ rest))) = some (token.kind, rest) := by
    rw [start]
    exact readBack.lexeme.read
  rw [readTokens_of_read read, start, taken_append_left, taken_append_left]

/-- A lexeme at the front of a source is its first token, and its span is the lexeme. -/
theorem exists_first_of_isLexeme
    {kind : TokenKind}
    {lexeme rest : List Char}
    {source : String}
    {tokens : List Token}
    (isLexeme : IsLexeme kind lexeme rest)
    (begins : source.toList = lexeme ++ rest)
    (tokenized : tokenize source = .ok tokens) :
    ∃ first others,
      placeTokens tokens = first :: others ∧
        first.token.kind = kind ∧
        first.token.lexeme = lexeme ∧
        first.offset = 0 ∧
        first.endOffset = byteLength lexeme := by
  obtain ⟨rfl, _⟩ := tokenize_eq_ok_iff.mp tokenized
  have readBack : Token.IsReadBack ⟨kind, [], lexeme⟩ rest :=
    ⟨List.forall_mem_nil _, isLexeme⟩
  have read := readTokens_of_isReadBack readBack
  rw [List.nil_append, ← begins] at read
  rw [read]
  exact ⟨_, _, rfl, rfl, rfl, rfl, Nat.zero_add _⟩

/-- Reading goes on behind tokens that are read back. -/
theorem readTokens_spelling_append
    {tokens : List Token}
    {rest : List Char}
    (readBack : AreReadBack tokens rest) :
    readTokens (spelling tokens ++ rest) =
      ⟨tokens ++ (readTokens rest).tokens, (readTokens rest).gap, (readTokens rest).rest⟩ := by
  induction tokens with
  | nil => rfl
  | cons token tokens hypothesis =>
      obtain ⟨first, others⟩ := readBack
      rw [spelling_cons, List.append_assoc, List.append_assoc, readTokens_of_isReadBack first,
        hypothesis others]
      rfl

/-- The tokens of a source are those that are read back and those of the text behind them. -/
theorem tokenize_append_of_areReadBack
    {tokens inner : List Token}
    {rest : List Char}
    (readBack : AreReadBack tokens rest)
    (tokenized : tokenize (String.ofList rest) = .ok inner) :
    tokenize (String.ofList (spelling tokens ++ rest)) = .ok (tokens ++ inner) := by
  rw [tokenize_eq_ok_iff, String.toList_ofList] at tokenized ⊢
  rw [readTokens_spelling_append readBack]
  exact ⟨congrArg (tokens ++ ·) tokenized.1, tokenized.2⟩

/-- A source that spells tokens which are read back has these tokens. -/
theorem tokenize_of_areReadBack
    {source : String}
    {tokens : List Token}
    (spelled : spelling tokens = source.toList)
    (readBack : AreReadBack tokens []) :
    tokenize source = .ok tokens := by
  have nothing : tokenize (String.ofList []) = .ok [] := by
    rw [tokenize_eq_ok_iff]
    decide +kernel
  have read := tokenize_append_of_areReadBack readBack nothing
  rwa [List.append_nil, List.append_nil, spelled, String.ofList_toList] at read

/-- A condition on the text that follows. -/
abbrev Follow :=
  List Char → Prop

/-- Some tokens spell a text, and are read back before whatever a condition admits. -/
structure Spells
    (follow : Follow)
    (text : List Char)
    (tokens : List Token) :
    Prop where
  spelled : spelling tokens = text
  readBack : ∀ rest, follow rest → AreReadBack tokens rest

/-- One token spells its gap and its characters. -/
theorem Spells.single
    {follow : Follow}
    {kind : TokenKind}
    {gap lexeme : List Char}
    (spaces : IsSpaces gap)
    (isLexeme : ∀ rest, follow rest → IsLexeme kind lexeme rest) :
    Spells follow (gap ++ lexeme) [⟨kind, gap, lexeme⟩] where
  spelled := by
    simp
  readBack rest admitted := by
    exact ⟨⟨spaces, isLexeme rest admitted⟩, trivial⟩

/-- Tokens spell their texts one after the other. -/
theorem Spells.append
    {inner outer : Follow}
    {first second : List Char}
    {firstTokens secondTokens : List Token}
    (firstSpells : Spells inner first firstTokens)
    (secondSpells : Spells outer second secondTokens)
    (admits : ∀ rest, outer rest → inner (second ++ rest)) :
    Spells outer (first ++ second) (firstTokens ++ secondTokens) where
  spelled := by
    rw [spelling_append, firstSpells.spelled, secondSpells.spelled]
  readBack rest admitted := by
    rw [areReadBack_append, secondSpells.spelled]
    exact ⟨firstSpells.readBack _ (admits rest admitted),
      secondSpells.readBack rest admitted⟩

/-- Tokens are read back before less than what is admitted too. -/
theorem Spells.weaken
    {wide narrow : Follow}
    {text : List Char}
    {tokens : List Token}
    (spells : Spells wide text tokens)
    (admits : ∀ rest, narrow rest → wide rest) :
    Spells narrow text tokens where
  spelled :=
    spells.spelled
  readBack rest admitted :=
    spells.readBack rest (admits rest admitted)

end InitializerJson.Lexical
