import InitializerJson.Proofs.Expression.ChainReading
import InitializerJson.Proofs.Lexical.NumeralLexeme

namespace InitializerJson

open Lexical Character

/-!
# Literals are read back

Each literal that some source writes is one token, or a minus sign and a numeral.
Its tokens are read back before every mark that may close an expression.
-/

/-- The characters that stand behind printed expressions. -/
def closingMarks : List Char :=
  [',', ';', ')', ']', ' ']

/-- A text that begins with a mark behind a printed expression. -/
def Closes : Follow :=
  fun rest => ∃ mark ∈ closingMarks, ∃ others, rest = mark :: others

/-- A run of a class ends at a closing mark when the class has none of these marks. -/
theorem Closes.endsRun
    {belongs : Char → Bool}
    {rest : List Char}
    (closes : Closes rest)
    (outside : closingMarks.any belongs = false) :
    EndsRun belongs rest := by
  obtain ⟨mark, member, others, rfl⟩ := closes
  exact endsRun_cons (by simpa using List.any_eq_false.mp outside mark member)

/-- The tokens of a literal, and how they are read. -/
structure WrittenLiteral
    (gap : List Char)
    (literal : Literal)
    (first : Token)
    (others : List Token) :
    Prop where
  spells : Spells Closes (gap ++ literal.print) (first :: others)
  inert :
    ∀ token ∈ first :: others,
      token.isOpener = false ∧ token.isCloser = false ∧ token.isDelimiter = false
  unlabelled :
    ∀ rest, startsWith .colon rest = false → startsWith .colon (others ++ rest) = false
  reads :
    ∀ inner rest,
      atExpressionEnd rest = true →
      readPrimary inner (first :: others ++ rest) = (.literal literal, rest)

/-- A literal that is one token with no mark of its own. -/
theorem writtenLiteral_single
    {gap lexeme : List Char}
    {kind : TokenKind}
    {literal : Literal}
    (spaces : IsSpaces gap)
    (spelled : literal.print = lexeme)
    (isLexeme : ∀ rest, Closes rest → IsLexeme kind lexeme rest)
    (noMark : (Token.mk kind gap lexeme).punctuator? = none)
    (reads :
      ∀ inner rest,
        atExpressionEnd rest = true →
        readPrimary inner (⟨kind, gap, lexeme⟩ :: rest) = (.literal literal, rest)) :
    WrittenLiteral gap literal ⟨kind, gap, lexeme⟩ [] where
  spells := by
    rw [spelled]
    exact Spells.single spaces isLexeme
  inert := by
    intro token member
    cases List.mem_singleton.mp member
    simp [Token.isOpener, Token.isCloser, Token.isDelimiter, noMark]
  unlabelled _ other := other
  reads := reads

/-- A literal that is a word of its own. -/
theorem writtenLiteral_word
    {gap word : List Char}
    {literal : Literal}
    (spaces : IsSpaces gap)
    (spelled : literal.print = word)
    (isWord : IsWord word)
    (reads :
      ∀ inner tokens,
        atExpressionEnd tokens.tail = true →
        readWord inner (String.ofList word) tokens = (.literal literal, tokens.tail)) :
    WrittenLiteral gap literal (wordToken gap word) [] := by
  refine writtenLiteral_single spaces spelled ?_ rfl ?_
  · intro rest closes
    exact isWord.isLexeme (closes.endsRun (by decide))
  · intro inner rest ends
    exact reads inner (wordToken gap word :: rest) ends

/-- A numeral in bounds is read as its number. -/
theorem numberUpTo_of_value
    {text : String}
    {negative : Bool}
    {number : Number}
    (value : Number.ofLiteral? text negative = some number)
    (start rest : List Token) :
    numberUpTo text negative start rest = (.literal (.number number), rest) := by
  rw [numberUpTo, value]

/-- A number is written by its sign and numeral. -/
theorem exists_writtenNumber
    {gap : List Char}
    {number : Number}
    (spaces : IsSpaces gap)
    (isOfLiteral : number.IsOfLiteral) :
    ∃ first others, WrittenLiteral gap (.number number) first others := by
  obtain ⟨negative, whole, fraction, exponent, written⟩ := isOfLiteral.exists_written
  have isLexeme :
      ∀ rest, Closes rest →
        IsLexeme (.number (String.ofList (whole ++ (fraction ++ exponent))))
          (whole ++ (fraction ++ exponent)) rest := by
    intro rest closes
    exact isLexeme_numeral written.digits written.pointed written.scaled
      (closes.endsRun (by decide))
  have begins : ∃ first others, whole ++ (fraction ++ exponent) = first :: others ∧
      first.isDigit = true := by
    obtain ⟨first, others, shape⟩ := List.exists_cons_of_ne_nil written.digits.ne_nil
    exact ⟨first, others ++ (fraction ++ exponent), by rw [shape, List.cons_append],
      written.digits.isDigit first (by simp [shape])⟩
  have spelled : (Literal.number number).print =
      signText negative ++ (whole ++ (fraction ++ exponent)) :=
    written.spelled
  have value := written.value
  clear written
  generalize whole ++ (fraction ++ exponent) = numeral at *
  cases negative with
  | false =>
      refine ⟨_, [], writtenLiteral_single spaces spelled isLexeme rfl ?_⟩
      intro inner rest _
      exact numberUpTo_of_value value _ rest
  | true =>
      obtain ⟨first, others, rfl, digit⟩ := begins
      have minus : Spells (EndsRun fun character => !character.isDigit) (gap ++ ['-'])
          [markToken gap .minus] :=
        spells_mark_of_endsRun .minus spaces (by decide) (by decide) (by decide)
      have spells :=
        minus.append (Spells.single isSpaces_nil isLexeme) fun rest _ =>
          endsRun_cons (by simp [digit])
      refine ⟨markToken gap .minus,
        [⟨.number (String.ofList (first :: others)), [], first :: others⟩], ?_, ?_,
        fun _ _ => rfl, ?_⟩
      · rw [spelled]
        simpa [signText] using spells
      · intro token member
        rcases List.mem_cons.mp member with rfl | last
        · exact ⟨rfl, rfl, rfl⟩
        · cases List.mem_singleton.mp last
          exact ⟨rfl, rfl, rfl⟩
      · intro inner rest _
        exact numberUpTo_of_value value _ rest

/-- Every literal that some source writes is written by its tokens. -/
theorem Literal.IsCanonical.exists_written
    {gap : List Char}
    {literal : Literal}
    (canonical : literal.IsCanonical)
    (spaces : IsSpaces gap) :
    ∃ first others, WrittenLiteral gap literal first others := by
  cases canonical with
  | null =>
      refine ⟨_, [], writtenLiteral_word spaces rfl (by decide) ?_⟩
      intro inner tokens _
      rfl
  | bool value =>
      cases value with
      | true =>
          refine ⟨_, [], writtenLiteral_word spaces rfl (by decide) ?_⟩
          intro inner tokens _
          rfl
      | false =>
          refine ⟨_, [], writtenLiteral_word spaces rfl (by decide) ?_⟩
          intro inner tokens _
          rfl
  | number isOfLiteral => exact exists_writtenNumber spaces isOfLiteral
  | string value =>
      refine ⟨⟨.string value, gap, regularLiteral value.toList⟩, [],
        writtenLiteral_single spaces rfl ?_ rfl fun _ _ _ => rfl⟩
      intro rest closes
      have notQuote : rest.head? ≠ some '"' := by
        obtain ⟨mark, member, others, rfl⟩ := closes
        rw [List.head?_cons, ne_eq, Option.some_inj]
        rintro rfl
        revert member
        decide
      have isLexeme := isLexeme_regularLiteral value.toList notQuote
      rwa [String.ofList_toList] at isLexeme
  | default =>
      refine ⟨_, [], writtenLiteral_word spaces rfl (by decide) ?_⟩
      intro inner tokens ends
      have noCall : startsWith .openParenthesis tokens.tail = false :=
        startsWith_of_atExpressionEnd ends rfl
      have word : String.ofList (Literal.verbatim "default").print = "default" :=
        String.ofList_toList
      simp [word, readWord, noCall]
  | @character text isLiteral =>
      refine ⟨⟨.character text, gap, text.toList⟩, [],
        writtenLiteral_single spaces rfl ?_ rfl fun _ _ _ => rfl⟩
      intro rest _
      have isLexeme := isLiteral.isLexeme rest
      rwa [String.ofList_toList] at isLexeme

end InitializerJson
