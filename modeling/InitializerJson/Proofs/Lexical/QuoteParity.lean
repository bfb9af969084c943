import InitializerJson.Proofs.Lexical.QuotePairs
import Mathlib.Algebra.Ring.Parity

namespace InitializerJson.Lexical

open Character

/-!
# Quotes of plain text

In plain text a quote does nothing but open or close a literal, and every literal has
two quotes, or twice as many.  So the parity of their number stays while tokens are
read: an odd number of quotes leaves one of them over, and an even number in one line
leaves none.  Quotes in front of the text are read as empty texts, two by two.
-/

/-! ## Plain text -/

/--
Text whose quotes do nothing but open and close literals.  It has no apostrophe, no
backslash, no mark of interpolated literals, comments or directives, and nowhere three
quotes in a row.
-/
structure IsPlainText
    (text : List Char) :
    Prop where
  plain : ∀ character ∈ text, character ∉ ['\'', '\\', '$', '/', '#']
  few : ¬ List.replicate 3 '"' <:+: text

/-- Behind some plain text stands plain text. -/
theorem IsPlainText.of_suffix
    {text rest : List Char}
    (isPlain : IsPlainText text)
    (suffix : rest <:+ text) :
    IsPlainText rest where
  plain character member := isPlain.plain character (suffix.mem member)
  few three := isPlain.few (three.trans suffix.isInfix)

/-- One quote in front of plain text makes no three quotes. -/
theorem IsPlainText.replicate_append
    {text : List Char}
    {count : Nat}
    (isPlain : IsPlainText text)
    (ends : text.head? ≠ some '"')
    (atMostOne : count ≤ 1) :
    IsPlainText (List.replicate count '"' ++ text) := by
  obtain rfl | rfl := Nat.le_one_iff_eq_zero_or_eq_one.mp atMostOne
  · exact isPlain
  · constructor
    · rintro character (_ | ⟨_, member⟩)
      · decide
      · exact isPlain.plain character member
    · intro three
      rcases List.infix_cons_iff.mp three with ⟨behind, front⟩ | inside
      · obtain ⟨_, shape⟩ := List.cons.inj front
        have starts : text = '"' :: '"' :: behind := shape.symm
        exact ends (by rw [starts]; rfl)
      · exact isPlain.few inside

/-- What is taken from a text has an even number of quotes. -/
def TakesEven
    (text rest : List Char) :
    Prop :=
  ∃ front, text = front ++ rest ∧ Even (front.count '"')

/-- No quote is an even number of them. -/
theorem TakesEven.of_notMem
    {front rest : List Char}
    (absent : '"' ∉ front) :
    TakesEven (front ++ rest) rest :=
  ⟨front, rfl, by rw [List.count_eq_zero.mpr absent]; exact Even.zero⟩

/-- The parity of the number of quotes stays. -/
theorem TakesEven.even_count_iff
    {text rest : List Char}
    (taken : TakesEven text rest) :
    Even (text.count '"') ↔ Even (rest.count '"') := by
  obtain ⟨front, rfl, even⟩ := taken
  rw [List.count_append, Nat.even_add]
  exact iff_true_left even

/-- Even numbers of quotes add up to one. -/
theorem TakesEven.trans
    {text middle rest : List Char}
    (first : TakesEven text middle)
    (second : TakesEven middle rest) :
    TakesEven text rest := by
  obtain ⟨front, rfl, evenFront⟩ := first
  obtain ⟨behind, rfl, evenBehind⟩ := second
  refine ⟨front ++ behind, (List.append_assoc _ _ _).symm, ?_⟩
  rw [List.count_append]
  exact evenFront.add evenBehind

/-! ## Tokens of plain text -/

/-- Digits have no quote among them. -/
theorem DigitsText.quote_notMem
    {text : List Char}
    (isDigits : DigitsText text) :
    '"' ∉ text := by
  obtain ⟨first, others⟩ := isDigits
  rintro (_ | ⟨_, member⟩)
  · exact absurd first (by decide)
  · exact absurd (others _ member) (by decide)

/-- A decimal point and its digits have no quote. -/
theorem PointedText.quote_notMem
    {text : List Char}
    (pointed : PointedText text) :
    '"' ∉ text := by
  cases pointed with
  | absent => exact List.not_mem_nil
  | present digits => simpa using digits.quote_notMem

/-- An exponent has no quote. -/
theorem ScaledText.quote_notMem
    {text : List Char}
    (scaled : ScaledText text) :
    '"' ∉ text := by
  cases scaled with
  | absent => exact List.not_mem_nil
  | @present mark sign digits isMark isSign isDigits =>
      have notMark : '"' ≠ mark := by
        rintro rfl
        exact absurd isMark (by decide)
      have notSign : '"' ∉ sign := by
        rcases isSign with rfl | rfl | rfl <;> decide
      simp [notMark, notSign, isDigits.quote_notMem]

/-- A suffix has no quote, if it is one of some without. -/
theorem SuffixText.quote_notMem
    {suffixes : List (List Char)}
    {text : List Char}
    (isSuffix : SuffixText suffixes text)
    (absent : ∀ letters ∈ suffixes, '"' ∉ letters) :
    '"' ∉ text := by
  cases isSuffix with
  | absent => exact List.not_mem_nil
  | present member => exact fun quote => absent _ member (List.mem_map_of_mem quote)

/-- A numeral has no quote. -/
theorem NumeralText.quote_notMem
    {text : List Char}
    (isNumeral : NumeralText text) :
    '"' ∉ text := by
  cases isNumeral with
  | @based base mark digits suffix isMark _ inBase isSuffix =>
      have notMark : '"' ≠ mark := by
        rintro rfl
        cases base <;> exact absurd isMark (by decide)
      have notDigit : '"' ∉ digits := by
        intro member
        have continues := inBase _ member
        cases base <;> exact absurd continues (by decide)
      simp [notMark, notDigit, isSuffix.quote_notMem (by decide)]
  | decimal whole pointed scaled isSuffix =>
      simp [whole.quote_notMem, pointed.quote_notMem, scaled.quote_notMem,
        isSuffix.quote_notMem (by decide)]
  | pointed digits scaled isSuffix =>
      simp [digits.quote_notMem, scaled.quote_notMem, isSuffix.quote_notMem (by decide)]

/-- No punctuator has a quote. -/
theorem quote_notMem_spelling :
    ∀ punctuator : Punctuator, '"' ∉ punctuator.spelling := by
  intro punctuator
  cases punctuator <;> decide

/-- A word has no quote. -/
theorem IsWord.quote_notMem
    {text : List Char}
    (word : IsWord text) :
    '"' ∉ text := by
  obtain ⟨mark, first, others, rfl, isMark, begins, continues⟩ := word.exists_parts
  have notMark : '"' ∉ mark := by
    rcases isMark with rfl | rfl <;> decide
  have notFirst : '"' ≠ first := (ne_of_class begins (by decide)).symm
  have notLater : '"' ∉ others :=
    fun member => absurd (continues _ member) (by decide)
  simp [notMark, notFirst, notLater]

/-- Regular text without a backslash ends at its first quote. -/
theorem exists_body_of_regularBody?
    {text : List Char}
    {read : List Char × List Char}
    (noBackslash : '\\' ∉ text)
    (found : regularBody? text = some read) :
    ∃ body, text = body ++ '"' :: read.2 ∧ '"' ∉ body := by
  fun_induction regularBody? text generalizing read with
  | case1 => cases found
  | case2 => cases found
  | case3 rest =>
      cases found
      exact ⟨[], rfl, List.not_mem_nil⟩
  | case4 => exact absurd List.mem_cons_self noBackslash
  | case5 => cases found
  | case6 character rest _ notQuote _ hypothesis =>
      obtain ⟨inner, innerFound, rfl⟩ := Option.map_eq_some_iff.mp found
      obtain ⟨body, shape, absent⟩ :=
        hypothesis (fun member => noBackslash (.tail _ member)) innerFound
      exact ⟨character :: body, by rw [shape]; rfl, by simp [absent, Ne.symm notQuote]⟩

/-- In verbatim text every quote stands twice. -/
theorem even_count_doubled
    (value : List Char) :
    Even ((value.flatMap doubleQuote).count '"') := by
  induction value with
  | nil => exact Even.zero
  | cons character value hypothesis =>
      rw [List.flatMap_cons, List.count_append]
      refine Even.add ?_ hypothesis
      by_cases quote : character = '"'
      · subst quote
        exact ⟨1, rfl⟩
      · have plain : doubleQuote character = [character] :=
          if_neg quote
        rw [plain, List.count_eq_zero.mpr (by simpa using Ne.symm quote)]
        exact Even.zero

/-- Verbatim text takes an even number of quotes. -/
theorem takesEven_of_verbatimText?
    {text : List Char}
    {read : List Char × List Char}
    (found : verbatimText? text = some read) :
    TakesEven text read.2 := by
  unfold verbatimText? at found
  split at found
  · have inner := even_count_doubled read.1
    refine ⟨'@' :: '"' :: (read.1.flatMap doubleQuote ++ ['"']), ?_, ?_⟩
    · rw [eq_flatMap_of_verbatimBody? found]
      simp
    · have count :
          ('@' :: '"' :: (read.1.flatMap doubleQuote ++ ['"'])).count '"' =
            (read.1.flatMap doubleQuote).count '"' + 2 := by
        simp
      rw [count]
      exact inner.add even_two
  · cases found

/-- Regular text without a backslash takes two quotes. -/
theorem takesEven_of_regularText?
    {text : List Char}
    {read : List Char × List Char}
    (noBackslash : '\\' ∉ text)
    (found : regularText? text = some read) :
    TakesEven text read.2 := by
  unfold regularText? at found
  split at found
  · obtain ⟨body, rfl, absent⟩ :=
      exists_body_of_regularBody? (fun member => noBackslash (.tail _ member)) found
    refine ⟨'"' :: (body ++ ['"']), by simp, 1, ?_⟩
    simp [List.count_eq_zero.mpr absent]
  · cases found

/-- Without three quotes in a row no raw text begins. -/
theorem rawText?_eq_none_of_few
    {text : List Char}
    (count : Nat)
    (ends : text.head? ≠ some '"')
    (few : ¬ List.replicate 3 '"' <:+: text) :
    rawText? (List.replicate count '"' ++ text) = none := by
  rw [rawText?_replicate _ ends]
  split
  · next enough =>
      cases found : splitAtMark? (List.replicate count '"') text with
      | none => rfl
      | some parts =>
          obtain ⟨more, rfl⟩ := Nat.exists_eq_add_of_le enough
          have three : List.replicate 3 '"' <:+: List.replicate (3 + more) '"' := by
            rw [← List.replicate_append_replicate]
            exact (List.prefix_append _ _).isInfix
          exact absurd (three.trans ⟨parts.1, parts.2, (eq_append_of_splitAtMark? found).symm⟩) few
  · rfl

/-- A text begins with some quotes, and goes on in something else. -/
theorem exists_replicate_append
    (text : List Char) :
    ∃ count body, text = List.replicate count '"' ++ body ∧ body.head? ≠ some '"' := by
  induction text with
  | nil => exact ⟨0, [], rfl, by simp⟩
  | cons character text hypothesis =>
      by_cases quote : character = '"'
      · obtain ⟨count, body, rfl, ends⟩ := hypothesis
        exact ⟨count + 1, body, by rw [quote]; rfl, ends⟩
      · exact ⟨0, character :: text, rfl, by simpa using quote⟩

/-- Plain text begins no raw text. -/
theorem IsPlainText.rawText?_eq_none
    {text : List Char}
    (isPlain : IsPlainText text) :
    rawText? text = none := by
  obtain ⟨count, body, rfl, ends⟩ := exists_replicate_append text
  have bodyPlain := isPlain.of_suffix (List.suffix_append _ body)
  exact rawText?_eq_none_of_few count ends bodyPlain.few

/-- A token of plain text takes an even number of quotes. -/
theorem IsPlainText.takesEven
    {text : List Char}
    {read : TokenKind × List Char}
    (isPlain : IsPlainText text)
    (found : readKind? text = some read) :
    TakesEven text read.2 := by
  have without {mark : Char} (isMark : mark ∈ ['\'', '\\', '$', '/', '#']) : mark ∉ text :=
    fun member => isPlain.plain mark member isMark
  simp only [readKind?, Option.or_eq_some_iff, Option.map_eq_some_iff] at found
  rcases found with
    ⟨part, raw, rfl⟩ | ⟨_, ⟨part, interpolated, rfl⟩ | ⟨_, ⟨part, verbatim, rfl⟩ |
    ⟨_, ⟨part, regular, rfl⟩ | ⟨_, ⟨part, character, rfl⟩ | ⟨_, ⟨part, numeral, rfl⟩ |
    ⟨_, ⟨part, identifier, rfl⟩ | ⟨_, ⟨part, punctuator, rfl⟩ |
    ⟨_, ⟨part, unknown, rfl⟩⟩⟩⟩⟩⟩⟩⟩⟩
  · rw [isPlain.rawText?_eq_none] at raw
    cases raw
  · have dollar : '$' ∈ text := by
      unfold afterInterpolatedText? at interpolated
      split at interpolated
      · simp
      · simp
      · simp
      · cases interpolated
    exact absurd dollar (without (by decide))
  · exact takesEven_of_verbatimText? verbatim
  · exact takesEven_of_regularText? (without (by decide)) regular
  · have apostrophe : '\'' ∈ text := by
      unfold afterCharacterLiteral? at character
      split at character
      · exact List.mem_cons_self
      · cases character
    exact absurd apostrophe (without (by decide))
  · obtain ⟨lexeme, rfl, isNumeral⟩ := exists_numeralText numeral
    exact .of_notMem isNumeral.quote_notMem
  · obtain ⟨lexeme, rfl, word⟩ := exists_word_of_afterIdentifier? identifier
    exact .of_notMem word.quote_notMem
  · rw [Punctuator.read?_eq_append punctuator]
    exact .of_notMem (quote_notMem_spelling _)
  · have shape := unknown?_eq_cons unknown
    subst shape
    have notQuote : '"' ∉ [part.1] := by
      rw [List.mem_singleton]
      intro quote
      simp [unknown?, ← quote] at unknown
    exact .of_notMem notQuote

/-- A gap in plain text has no quote. -/
theorem IsPlainText.takesEven_afterGap
    {text : List Char}
    (isPlain : IsPlainText text) :
    TakesEven text (afterGap text) := by
  fun_induction afterGap text with
  | case1 text rest piece hypothesis =>
      have blank : ∃ first, text = first :: rest ∧ isBlank first = true := by
        unfold afterGapPiece? at piece
        split at piece
        · exact absurd (by decide) (isPlain.plain '/' List.mem_cons_self)
        · exact absurd (by decide) (isPlain.plain '/' List.mem_cons_self)
        · exact absurd (by decide) (isPlain.plain '#' List.mem_cons_self)
        · split at piece
          · next inside =>
              cases piece
              exact ⟨_, rfl, inside⟩
          · cases piece
        · cases piece
      obtain ⟨first, rfl, inside⟩ := blank
      have notQuote : '"' ∉ [first] :=
        fun member => ne_of_class inside (by decide) (List.mem_singleton.mp member).symm
      exact (TakesEven.of_notMem notQuote).trans
        (hypothesis (isPlain.of_suffix (List.suffix_cons first rest)))
  | case2 text piece => exact ⟨[], rfl, Even.zero⟩

/-- All the tokens of plain text take an even number of quotes. -/
theorem IsPlainText.takesEven_readTokens
    {text : List Char}
    (isPlain : IsPlainText text) :
    TakesEven text (readTokens text).rest := by
  fun_induction readTokens text with
  | case1 text start found => exact isPlain.takesEven_afterGap
  | case2 text start kind rest found run hypothesis =>
      have startPlain : IsPlainText start :=
        isPlain.of_suffix (afterGap_suffix text)
      have restPlain : IsPlainText rest :=
        startPlain.of_suffix (readBehindGap?_properSuffix found).suffix
      have token : TakesEven start rest :=
        startPlain.takesEven (readKind?_of_readBehindGap? found)
      exact isPlain.takesEven_afterGap.trans (token.trans (hypothesis restPlain))

/-- What is left of plain text is nothing, or a quote behind which no regular text ends. -/
theorem IsPlainText.rest_cases
    {text : List Char}
    (isPlain : IsPlainText text) :
    (readTokens text).rest = [] ∨
      ∃ body, (readTokens text).rest = '"' :: body ∧ regularBody? body = none := by
  have restPlain := isPlain.of_suffix (rest_suffix text)
  obtain ⟨solid, unread⟩ := unread_rest text
  generalize (readTokens text).rest = rest at restPlain solid unread
  refine Decidable.or_iff_not_imp_left.mpr fun left => ?_
  have opening := isOpening_of_unread solid unread left
  generalize (Unterminated.ofRest rest).detail = detail at opening
  cases opening with
  | blockComment => exact absurd (by decide) (restPlain.plain '/' List.mem_cons_self)
  | characterLiteral => exact absurd (by decide) (restPlain.plain '\'' List.mem_cons_self)
  | @stringLiteral body =>
      have noToken : readKind? ('"' :: body) = none := unread
      rw [readKind?_quote, Option.or_eq_none_iff] at noToken
      exact ⟨body, rfl, Option.map_eq_none_iff.mp noToken.2⟩

/-- Regular text ends in a line that has a quote and no backslash. -/
theorem regularBody?_ne_none
    {text : List Char}
    (oneLine : '\n' ∉ text)
    (noBackslash : '\\' ∉ text)
    (quote : '"' ∈ text) :
    regularBody? text ≠ none := by
  fun_induction regularBody? text with
  | case1 => exact absurd quote List.not_mem_nil
  | case2 => exact absurd List.mem_cons_self oneLine
  | case3 => exact Option.some_ne_none _
  | case4 => exact absurd List.mem_cons_self noBackslash
  | case5 => exact absurd List.mem_cons_self noBackslash
  | case6 character rest _ notQuote _ hypothesis =>
      rw [ne_eq, Option.map_eq_none_iff]
      refine hypothesis (fun member => oneLine (.tail _ member))
        (fun member => noBackslash (.tail _ member)) ?_
      exact (List.mem_cons.mp quote).resolve_left (Ne.symm notQuote)

/-- Plain text with an odd number of quotes is read up to one of them. -/
theorem IsPlainText.exists_rest_of_odd
    {text : List Char}
    (isPlain : IsPlainText text)
    (odd : Odd (text.count '"')) :
    ∃ others, (readTokens text).rest = '"' :: others := by
  rcases isPlain.rest_cases with complete | ⟨body, left, _⟩
  · have parity := isPlain.takesEven_readTokens.even_count_iff
    rw [complete, List.count_nil] at parity
    exact absurd (parity.mpr Even.zero) (Nat.not_even_iff_odd.mpr odd)
  · exact ⟨body, left⟩

/-- A line of plain text with an even number of quotes is read to its end. -/
theorem IsPlainText.rest_eq_nil_of_even
    {text : List Char}
    (isPlain : IsPlainText text)
    (oneLine : '\n' ∉ text)
    (even : Even (text.count '"')) :
    (readTokens text).rest = [] := by
  rcases isPlain.rest_cases with complete | ⟨body, left, unread⟩
  · exact complete
  · have suffix : '"' :: body <:+ text := left ▸ rest_suffix text
    have bodySuffix : body <:+ text := (List.suffix_cons '"' body).trans suffix
    have noBackslash : '\\' ∉ body :=
      fun member => (isPlain.of_suffix bodySuffix).plain _ member (by decide)
    have single : '"' ∉ body :=
      fun member => regularBody?_ne_none (fun feed => oneLine (bodySuffix.mem feed)) noBackslash
        member unread
    have parity := isPlain.takesEven_readTokens.even_count_iff.mp even
    rw [left, List.count_cons_self, List.count_eq_zero.mpr single] at parity
    exact absurd parity (by decide)

/-! ## Quotes in front -/

/-- Two quotes in front of others and of plain text are read as an empty text. -/
theorem rest_readTokens_twoQuotes
    {text : List Char}
    (ends : text.head? ≠ some '"')
    (few : ¬ List.replicate 3 '"' <:+: text)
    (count : Nat) :
    (readTokens (List.replicate (count + 2) '"' ++ text)).rest =
      (readTokens (List.replicate count '"' ++ text)).rest := by
  have shape :
      List.replicate (count + 2) '"' ++ text =
        '"' :: '"' :: (List.replicate count '"' ++ text) := rfl
  have noRaw := rawText?_eq_none_of_few (count + 2) ends few
  have empty :
      regularBody? ('"' :: (List.replicate count '"' ++ text)) =
        some ([], List.replicate count '"' ++ text) := by
    rw [regularBody?]
  rw [shape] at noRaw ⊢
  have read :
      readBehindGap? (afterGap ('"' :: '"' :: (List.replicate count '"' ++ text))) =
        some (.string "", List.replicate count '"' ++ text) := by
    rw [afterGap_quote]
    refine (readKind?_quote _).trans ?_
    rw [noRaw, empty]
    rfl
  rw [readTokens_of_read read]

/-- An even number of quotes in front of others is read as empty texts. -/
theorem rest_readTokens_replicate
    {text : List Char}
    (ends : text.head? ≠ some '"')
    (few : ¬ List.replicate 3 '"' <:+: text)
    (pairs count : Nat) :
    (readTokens (List.replicate (2 * pairs + count) '"' ++ text)).rest =
      (readTokens (List.replicate count '"' ++ text)).rest := by
  induction pairs with
  | zero => rw [Nat.mul_zero, Nat.zero_add]
  | succ pairs hypothesis =>
      have shape : 2 * (pairs + 1) + count = 2 * pairs + count + 2 := by
        omega
      rw [shape, rest_readTokens_twoQuotes ends few, hypothesis]

end InitializerJson.Lexical
