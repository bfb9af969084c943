import InitializerJson.Proofs.Lexical.LiteralLexeme
import InitializerJson.Proofs.Lexical.PunctuatorLexeme

namespace InitializerJson.Lexical

open Character

/-!
# Tokens apart

A token that was read is read again from its characters alone, before a space or
the end of the text, whatever stood behind it in the source.  So the tokens of a
source can be parted by single spaces without changing what they stand for.
Carriage returns are the exception: one inside a line keeps a directive from
being part of a gap, so that its mark is a token of its own.
-/

/-- Nothing follows, or a space. -/
def IsParted
    (rest : List Char) :
    Prop :=
  ∀ next ∈ rest.head?, next = ' '

/-- A class of characters without the space ends there. -/
theorem IsParted.endsRun
    {belongs : Char → Bool}
    {rest : List Char}
    (parted : IsParted rest)
    (outside : belongs ' ' = false) :
    EndsRun belongs rest := by
  intro next first
  rw [parted next first]
  exact outside

/-- A literal ends there. -/
theorem IsParted.endsLiteral
    {rest : List Char}
    (parted : IsParted rest) :
    EndsLiteral rest where
  notQuote quote := by
    cases parted '"' quote
  endsRun := parted.endsRun (by decide)

/-- Some characters are read as one token wherever it stands apart. -/
def StandsAlone
    (kind : TokenKind)
    (lexeme : List Char) :
    Prop :=
  ∀ rest, IsParted rest → IsLexeme kind lexeme rest

/-! ## Punctuators and unknown characters -/

namespace Punctuator

/-- Before a space a punctuator ends. -/
theorem endsBefore_of_isParted
    (punctuator : Punctuator)
    {rest : List Char}
    (parted : IsParted rest) :
    punctuator.EndsBefore rest where
  notLonger := by
    intro next first
    rw [parted next first]
    exact space_notMem_continuations punctuator (mem_all punctuator)
  notNumeral _ :=
    parted.endsRun (by decide)

/-- The punctuators that begin with a slash. -/
theorem spelling_of_slash :
    ∀ punctuator ∈ all, punctuator.spelling.head? = some '/' →
      punctuator.spelling = ['/'] ∨ punctuator.spelling = ['/', '='] := by
  decide

/-- A slash begins no comment before a space or an equals sign. -/
theorem solid_of_slash
    {behind : List Char}
    (noComment : ∀ next ∈ behind.head?, next = ' ' ∨ next = '=') :
    afterGapPiece? ('/' :: behind) = none ∧ beginsComment ('/' :: behind) = false := by
  have notBlank : isBlank '/' = false := by
    decide
  cases behind with
  | nil => exact ⟨by simp [afterGapPiece?, notBlank], rfl⟩
  | cons next others =>
      rcases noComment next rfl with rfl | rfl
      · exact ⟨by simp [afterGapPiece?, notBlank], rfl⟩
      · exact ⟨by simp [afterGapPiece?, notBlank], rfl⟩

/-- Every punctuator stands alone. -/
theorem standsAlone
    (punctuator : Punctuator) :
    StandsAlone (.punctuator punctuator) punctuator.spelling := by
  intro rest parted
  have ends := punctuator.endsBefore_of_isParted parted
  by_cases slash : punctuator.spelling.head? = some '/'
  · -- Neither another slash nor a star makes a comment of it.
    have noComment : ∀ next ∈ (punctuator.spelling ++ rest).tail.head?, next = ' ' ∨ next = '=' := by
      intro next first
      rcases spelling_of_slash punctuator (mem_all punctuator) slash with shape | shape
      · rw [shape] at first
        exact .inl (parted next first)
      · rw [shape] at first
        cases first
        exact .inr rfl
    have read := ends.readKind?_append
    obtain ⟨others, shape⟩ := List.head?_eq_some_iff.mp slash
    rw [shape] at read noComment ⊢
    rw [List.cons_append, List.tail_cons] at noComment
    obtain ⟨solid, noOpen⟩ := solid_of_slash noComment
    refine ⟨solid, ?_⟩
    rw [List.cons_append] at read ⊢
    rw [readBehindGap?, noOpen]
    exact read
  · exact ends.isLexeme slash

/-- What begins a punctuator is one itself. -/
theorem exists_single :
    ∀ punctuator ∈ all, ∃ single ∈ all, single.spelling = punctuator.spelling.take 1 := by
  decide +kernel

/-- Where no punctuator is read, the character in front begins none. -/
theorem head?_ne_of_read?_eq_none
    {first : Char}
    {rest : List Char}
    (noneRead : read? (first :: rest) = none)
    (punctuator : Punctuator) :
    punctuator.spelling.head? ≠ some first := by
  intro begins
  obtain ⟨others, shape⟩ := List.head?_eq_some_iff.mp begins
  obtain ⟨single, member, spelled⟩ := exists_single punctuator (mem_all punctuator)
  rw [shape] at spelled
  have failed := List.findSome?_eq_none_iff.mp noneRead single member
  rw [Option.map_eq_none_iff, spelled] at failed
  simp [afterMark?] at failed

/-- No punctuator is read where the character in front begins none. -/
theorem read?_eq_none
    {first : Char}
    {rest : List Char}
    (other : ∀ punctuator : Punctuator, punctuator.spelling.head? ≠ some first) :
    read? (first :: rest) = none := by
  apply List.findSome?_eq_none_iff.mpr
  intro punctuator _
  rw [Option.map_eq_none_iff]
  obtain ⟨mark, others, shape⟩ := List.exists_cons_of_ne_nil (spelling_ne_nil punctuator)
  have differs : mark ≠ first := by
    rintro rfl
    exact other punctuator (by rw [shape, List.head?_cons])
  rw [shape]
  simp [afterMark?, differs]

end Punctuator

/-- A line without carriage returns has an end. -/
theorem lineEnd?_ne_none
    {text : List Char}
    (noReturn : '\r' ∉ text) :
    lineEnd? text ≠ none := by
  fun_induction lineEnd? text <;> simp_all

/-- What begins no piece of a gap is no blank, and no mark of a directive. -/
theorem first_of_solid
    {first : Char}
    {others : List Char}
    (solid : afterGapPiece? (first :: others) = none)
    (noReturn : '\r' ∉ others) :
    isBlank first = false ∧ first ≠ '#' := by
  refine ⟨isBlank_of_solid solid, ?_⟩
  rintro rfl
  exact lineEnd?_ne_none noReturn solid

/-- Before a space only quotes begin a text. -/
theorem readKind?_of_isParted
    {first : Char}
    {rest : List Char}
    (parted : IsParted rest)
    (noQuote : first ≠ '"' ∧ first ≠ '\'') :
    readKind? (first :: rest) =
      ((afterNumeral? (first :: rest)).map (asWritten .number (first :: rest))).or
        (((afterIdentifier? (first :: rest)).map (asWritten .identifier (first :: rest))).or
          (((Punctuator.read? (first :: rest)).map
              fun read => (.punctuator read.1, read.2)).or
            ((unknown? (first :: rest)).map fun read => (.unknown read.1, read.2)))) := by
  have noRaw : rawText? (first :: rest) = none := by
    simp [rawText?, noQuote.1]
  have noInterpolated : afterInterpolatedText? (first :: rest) = none := by
    unfold afterInterpolatedText?
    split <;> simp_all [IsParted]
  have noVerbatim : verbatimText? (first :: rest) = none := by
    unfold verbatimText?
    split <;> simp_all [IsParted]
  have noRegular : regularText? (first :: rest) = none := by
    simp [regularText?, noQuote.1]
  have noCharacter : afterCharacterLiteral? (first :: rest) = none := by
    simp [afterCharacterLiteral?, noQuote.2]
  simp [readKind?, noRaw, noInterpolated, noVerbatim, noRegular, noCharacter]

/-- Before a space a character that begins no identifier is none, be it a mark of one. -/
theorem afterIdentifier?_of_isParted
    {first : Char}
    {rest : List Char}
    (parted : IsParted rest)
    (notLetter : beginsIdentifier first = false) :
    afterIdentifier? (first :: rest) = none := by
  by_cases marked : first = '@'
  · subst marked
    cases rest with
    | nil => rfl
    | cons next more =>
        have notWord : beginsIdentifier next = false := by
          rw [parted next rfl]
          decide
        simp [afterIdentifier?, optionally, afterMark?, notWord]
  · simp [afterIdentifier?, optionally, afterMark?, Ne.symm marked, notLetter]

/-- A character that begins no other token stands alone. -/
theorem standsAlone_unknown
    {first : Char}
    {others : List Char}
    (solid : afterGapPiece? (first :: others) = none)
    (noReturn : '\r' ∉ others)
    (noQuote : first ≠ '"' ∧ first ≠ '\'')
    (noNumeral : afterNumeral? (first :: others) = none)
    (noIdentifier : afterIdentifier? (first :: others) = none)
    (noPunctuator : Punctuator.read? (first :: others) = none) :
    StandsAlone (.unknown first) [first] := by
  intro rest parted
  have noMark := Punctuator.head?_ne_of_read?_eq_none noPunctuator
  obtain ⟨notBlank, notHash⟩ := first_of_solid solid noReturn
  have notSlash : first ≠ '/' := by
    rintro rfl
    exact noMark .slash rfl
  have notDigit : first.isDigit = false := by
    rw [← Bool.not_eq_true]
    intro digit
    simp [afterNumeral?, afterDecimal?, afterDigits?, digit] at noNumeral
  have notLetter : beginsIdentifier first = false := by
    rw [← Bool.not_eq_true]
    intro letter
    have notAt : '@' ≠ first := (ne_of_class letter (by decide)).symm
    simp [afterIdentifier?, optionally, afterMark?, notAt, letter] at noIdentifier
  have noNumeralAlone : afterNumeral? (first :: rest) = none := by
    apply afterNumeral?_eq_none notDigit
    rintro rfl
    exact absurd rfl (noMark .dot)
  have noPunctuatorAlone : Punctuator.read? (first :: rest) = none :=
    Punctuator.read?_eq_none noMark
  have unknown : unknown? (first :: rest) = some (first, rest) := by
    simp [unknown?, noQuote]
  apply isLexeme_of_readKind? notBlank notSlash notHash
  rw [List.singleton_append, readKind?_of_isParted parted noQuote, noNumeralAlone,
    afterIdentifier?_of_isParted parted notLetter, noPunctuatorAlone, unknown]
  rfl

/-- What is read behind a gap stands alone, in a text without carriage returns. -/
theorem exists_standsAlone
    {text rest : List Char}
    {kind : TokenKind}
    (solid : afterGapPiece? text = none)
    (noReturn : '\r' ∉ text)
    (found : readBehindGap? text = some (kind, rest)) :
    ∃ lexeme, text = lexeme ++ rest ∧ StandsAlone kind lexeme := by
  have found := readKind?_of_readBehindGap? found
  by_cases isLiteral : kind.isLiteral = true
  · obtain ⟨lexeme, shape, closed⟩ := exists_isClosedLexeme isLiteral found
    exact ⟨lexeme, shape, fun behind parted => closed behind parted.endsLiteral⟩
  simp only [readKind?, Option.or_eq_some_iff, Option.map_eq_some_iff, Option.map_eq_none_iff]
    at found
  rcases found with
    ⟨_, _, shape⟩ | ⟨_, ⟨_, _, shape⟩ | ⟨_, ⟨_, _, shape⟩ | ⟨_, ⟨_, _, shape⟩ | ⟨_, ⟨_, _, shape⟩ |
    ⟨_, ⟨_, _, shape⟩ | ⟨noNumeral, ⟨_, _, shape⟩ | ⟨noIdentifier, ⟨read, punctuator, shape⟩ |
    ⟨noPunctuator, ⟨read, unknown, shape⟩⟩⟩⟩⟩⟩⟩⟩⟩
  iterate 7
    · cases shape
      exact absurd rfl isLiteral
  · cases shape
    exact ⟨read.1.spelling, Punctuator.read?_eq_append punctuator, read.1.standsAlone⟩
  · cases shape
    obtain ⟨first, others⟩ := read
    have whole := unknown?_eq_cons unknown
    subst whole
    have noQuote : first ≠ '"' ∧ first ≠ '\'' := by
      simpa [unknown?] using unknown
    exact ⟨[first], rfl, standsAlone_unknown solid (fun member => noReturn (.tail _ member))
      noQuote noNumeral noIdentifier noPunctuator⟩

/-! ## Tokens between spaces -/

/-- The tokens that are read from a text without carriage returns stand alone. -/
theorem standsAlone_readTokens
    {text : List Char}
    (noReturn : '\r' ∉ text) :
    ∀ token ∈ (readTokens text).tokens, StandsAlone token.kind token.lexeme := by
  fun_induction readTokens text with
  | case1 => simp
  | case2 text start kind rest found run hypothesis =>
      have inStart : '\r' ∉ start :=
        fun member => noReturn ((afterGap_suffix text).subset member)
      have inRest : '\r' ∉ rest :=
        fun member => inStart ((readBehindGap?_properSuffix found).suffix.subset member)
      obtain ⟨lexeme, shape, alone⟩ := exists_standsAlone (solid_afterGap text) inStart found
      refine List.forall_mem_cons.mpr ⟨?_, hypothesis inRest⟩
      have lexemeShape : taken start rest = lexeme := by
        rw [show start = lexeme ++ rest from shape, taken_append_left]
      rw [lexemeShape]
      exact alone

/-- A token with one space before it, whatever gap it had. -/
def Token.behindSpace
    (token : Token) :
    Token :=
  { token with gap := [' '] }

/-- Tokens parted by single spaces. -/
def respace : List Token → List Token
  | [] => []
  | token :: tokens => { token with gap := [] } :: tokens.map Token.behindSpace

/-- Parting tokens keeps what they stand for. -/
theorem kind_respace
    (tokens : List Token) :
    (respace tokens).map Token.kind = tokens.map Token.kind := by
  cases tokens with
  | nil => rfl
  | cons token tokens => simp [respace, Token.behindSpace]

/-- Parted tokens are spelled by their characters with spaces between. -/
theorem spelling_respace
    (tokens : List Token) :
    spelling (respace tokens) = [' '].intercalate (tokens.map Token.lexeme) := by
  cases tokens with
  | nil => rfl
  | cons token tokens =>
      induction tokens generalizing token with
      | nil => simp [respace]
      | cons second tokens hypothesis =>
          have behind := hypothesis second
          simp only [respace, spelling_cons, List.nil_append] at behind
          simp only [List.map_cons, List.intercalate_cons_cons] at behind ⊢
          rw [← behind]
          simp [respace, Token.behindSpace]

/-- Placing tokens keeps their characters. -/
theorem lexeme_placeFrom
    (offset : Nat)
    (position : Position)
    (tokens : List Token) :
    ((placeFrom offset position tokens).map fun placed => placed.token.lexeme) =
      tokens.map Token.lexeme := by
  induction tokens generalizing offset position with
  | nil => rfl
  | cons token tokens hypothesis => exact congrArg (token.lexeme :: ·) (hypothesis _ _)

/-- Tokens behind spaces end, or go on with a space. -/
theorem isParted_spelling
    (tokens : List Token) :
    IsParted (spelling (tokens.map Token.behindSpace)) := by
  cases tokens with
  | nil => simp [IsParted]
  | cons token tokens => simp [IsParted, Token.behindSpace]

/-- Tokens that stand alone are read back behind spaces. -/
theorem areReadBack_behindSpace
    {tokens : List Token}
    (alone : ∀ token ∈ tokens, StandsAlone token.kind token.lexeme) :
    AreReadBack (tokens.map Token.behindSpace) [] := by
  induction tokens with
  | nil => trivial
  | cons token tokens hypothesis =>
      obtain ⟨first, others⟩ := List.forall_mem_cons.mp alone
      refine ⟨⟨by simp [IsSpaces, Token.behindSpace], ?_⟩, hypothesis others⟩
      rw [List.append_nil]
      exact first _ (isParted_spelling tokens)

/-- Tokens that stand alone are read back between spaces. -/
theorem areReadBack_respace
    {tokens : List Token}
    (alone : ∀ token ∈ tokens, StandsAlone token.kind token.lexeme) :
    AreReadBack (respace tokens) [] := by
  cases tokens with
  | nil => trivial
  | cons token tokens =>
      obtain ⟨first, others⟩ := List.forall_mem_cons.mp alone
      refine ⟨⟨by simp [IsSpaces], ?_⟩, areReadBack_behindSpace others⟩
      rw [List.append_nil]
      exact first _ (isParted_spelling tokens)

/--
The characters of the tokens of a source, which are the slices of their spans, stand
for the same tokens when they are joined by single spaces.
-/
theorem tokenize_respaced
    {source : String}
    {tokens : List Token}
    (tokenized : tokenize source = .ok tokens)
    (noReturn : '\r' ∉ source.toList) :
    (∀ placed ∈ placeTokens tokens,
      Slice source.toList placed.offset placed.endOffset placed.token.lexeme) ∧
      ∃ again,
        tokenize
            (String.ofList
              ([' '].intercalate
                ((placeTokens tokens).map fun placed => placed.token.lexeme))) =
          .ok again ∧
        again.map Token.kind = tokens.map Token.kind := by
  have covers := covers_of_tokenize tokenized
  refine ⟨(covers.tilesFrom [] Position.start).slices, respace tokens, ?_, kind_respace tokens⟩
  have alone : ∀ token ∈ tokens, StandsAlone token.kind token.lexeme := by
    obtain ⟨rfl, _⟩ := tokenize_eq_ok_iff.mp tokenized
    exact standsAlone_readTokens noReturn
  have spelled :
      spelling (respace tokens) =
        (String.ofList
          ([' '].intercalate
            ((placeTokens tokens).map fun placed => placed.token.lexeme))).toList := by
    rw [String.toList_ofList, placeTokens, lexeme_placeFrom, spelling_respace]
  exact tokenize_of_areReadBack spelled (areReadBack_respace alone)

/-- The tokens of a crowded text with a directive, a comment and an open mark. -/
def crowdedTokens : List Token :=
  [
    ⟨.identifier "a", "#x\n".toList, ['a']⟩,
    ⟨.punctuator .assign, [], ['=']⟩,
    ⟨.number "0x1Ful", [], "0x1Ful".toList⟩,
    ⟨.punctuator .divideAssign, [], ['/', '=']⟩,
    ⟨.unknown '$', "/**/".toList, ['$']⟩,
    ⟨.string "\x7b", [], "\"\x7b\"".toList⟩
  ]

/-- Tokens of a crowded text are read again between spaces. -/
theorem tokenize_respaced_crowded :
    tokenize "#x\na=0x1Ful/=/**/$\"\x7b\"" = .ok crowdedTokens ∧
      (∀ placed ∈ placeTokens crowdedTokens,
        Slice "#x\na=0x1Ful/=/**/$\"\x7b\"".toList placed.offset placed.endOffset
          placed.token.lexeme) ∧
      ∃ again,
        tokenize
            (String.ofList
              ([' '].intercalate
                ((placeTokens crowdedTokens).map fun placed => placed.token.lexeme))) =
          .ok again ∧
        again.map Token.kind = crowdedTokens.map Token.kind := by
  have tokenized : tokenize "#x\na=0x1Ful/=/**/$\"\x7b\"" = .ok crowdedTokens :=
    tokenize_eq_ok_iff.mpr (by decide +kernel)
  have noReturn : '\r' ∉ "#x\na=0x1Ful/=/**/$\"\x7b\"".toList := by
    decide
  exact ⟨tokenized, tokenize_respaced tokenized noReturn⟩

end InitializerJson.Lexical
