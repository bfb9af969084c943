import InitializerJson.Proofs.Character.Classes
import InitializerJson.Proofs.Lexical.Spelling
import Mathlib.Data.List.TakeWhile

namespace InitializerJson.Lexical

open Character

/-!
# Words are read back

A word is a text that is one identifier from end to end.  Before a text that
does not go on with a letter, digit or underscore it is read as that identifier,
since no character that begins a word begins a token of another class or a gap.
-/

/-- A text that is one identifier or keyword. -/
def IsWord
    (text : List Char) :
    Prop :=
  afterIdentifier? text = some []

instance (text : List Char) :
    Decidable (IsWord text) :=
  inferInstanceAs (Decidable (_ = _))

/-- An identifier is a letter or underscore and what may follow it, behind at most one mark. -/
theorem exists_parts_of_afterIdentifier?
    {text rest : List Char}
    (found : afterIdentifier? text = some rest) :
    ∃ mark first others,
      text = mark ++ first :: others ++ rest ∧
        (mark = [] ∨ mark = ['@']) ∧
        beginsIdentifier first = true ∧
        ∀ character ∈ others, continuesIdentifier character = true := by
  have marked :
      ∃ mark, (mark = [] ∨ mark = ['@']) ∧
        text = mark ++ optionally (afterMark? ['@']) text := by
    cases found : afterMark? ['@'] text with
    | none => exact ⟨[], .inl rfl, by simp [optionally, found]⟩
    | some rest =>
        exact ⟨['@'], .inr rfl, by simpa [optionally, found] using afterMark?_eq_some_iff.mp found⟩
  obtain ⟨mark, shape, spelled⟩ := marked
  unfold afterIdentifier? at found
  split at found
  · cases found
  · next first behind front =>
      split at found
      · next begins =>
          cases found
          rw [front] at spelled
          have run :
              behind.takeWhile continuesIdentifier ++ behind.dropWhile continuesIdentifier =
                behind :=
            List.takeWhile_append_dropWhile
          exact ⟨mark, first, behind.takeWhile continuesIdentifier, by simpa [run] using spelled,
            shape, begins, List.all_eq_true.mp List.all_takeWhile⟩
      · cases found

/-- The parts of an identifier are read as one, when it does not go on behind them. -/
theorem afterIdentifier?_of_parts
    {mark others rest : List Char}
    {first : Char}
    (shape : mark = [] ∨ mark = ['@'])
    (begins : beginsIdentifier first = true)
    (continues : ∀ character ∈ others, continuesIdentifier character = true)
    (ends : EndsRun continuesIdentifier rest) :
    afterIdentifier? (mark ++ first :: others ++ rest) = some rest := by
  have front :
      optionally (afterMark? ['@']) (mark ++ first :: others ++ rest) =
        first :: (others ++ rest) := by
    rcases shape with rfl | rfl
    · have notMark : '@' ≠ first := (ne_of_class begins (by decide)).symm
      simp [optionally, afterMark?, notMark]
    · simp [optionally, afterMark?]
  rw [afterIdentifier?, front]
  simp only [begins, ↓reduceIte, dropWhile_append_of_endsRun continues ends]

/-- What is read as an identifier is a word. -/
theorem exists_word_of_afterIdentifier?
    {text rest : List Char}
    (found : afterIdentifier? text = some rest) :
    ∃ word, text = word ++ rest ∧ IsWord word := by
  obtain ⟨mark, first, others, rfl, shape, begins, continues⟩ :=
    exists_parts_of_afterIdentifier? found
  have nothing : EndsRun continuesIdentifier [] := by
    simp [EndsRun]
  have whole := afterIdentifier?_of_parts shape begins continues nothing
  rw [List.append_nil] at whole
  exact ⟨_, rfl, whole⟩

/-- A word is a letter or underscore and what may follow it, behind at most one mark. -/
theorem IsWord.exists_parts
    {text : List Char}
    (word : IsWord text) :
    ∃ mark first others,
      text = mark ++ first :: others ∧
        (mark = [] ∨ mark = ['@']) ∧
        beginsIdentifier first = true ∧
        ∀ character ∈ others, continuesIdentifier character = true := by
  obtain ⟨mark, first, others, shape, parts⟩ := exists_parts_of_afterIdentifier? word
  exact ⟨mark, first, others, by simpa using shape, parts⟩

/-- The first character of a word, which no gap and no token of another class has. -/
theorem IsWord.exists_first
    {text : List Char}
    (word : IsWord text) :
    ∃ first others,
      text = first :: others ∧
        (beginsIdentifier first = true ∨
          first = '@' ∧ ∃ second rest, others = second :: rest ∧
            beginsIdentifier second = true) := by
  obtain ⟨mark, first, others, rfl, rfl | rfl, begins, _⟩ := word.exists_parts
  · exact ⟨first, others, rfl, .inl begins⟩
  · exact ⟨'@', first :: others, rfl, .inr ⟨rfl, first, others, rfl, begins⟩⟩

/-- A word is read up to its end when no identifier goes on behind it. -/
theorem IsWord.afterIdentifier?_append
    {text rest : List Char}
    (word : IsWord text)
    (ends : EndsRun continuesIdentifier rest) :
    afterIdentifier? (text ++ rest) = some rest := by
  obtain ⟨mark, first, others, rfl, shape, begins, continues⟩ := word.exists_parts
  exact afterIdentifier?_of_parts shape begins continues ends

/-- No numeral begins with what is neither a digit nor a point before one. -/
theorem afterNumeral?_eq_none
    {first : Char}
    {rest : List Char}
    (notDigit : first.isDigit = false)
    (notPointed : first = '.' → EndsRun Char.isDigit rest) :
    afterNumeral? (first :: rest) = none := by
  have notZero : first.toLower ≠ '0' := by
    intro lower
    rcases toLower_cases first with same | ⟨_, letter⟩
    · rw [same] at lower
      subst lower
      cases notDigit
    · rw [lower] at letter
      cases letter
  have noFraction : afterFraction? (first :: rest) = none := by
    by_cases point : first = '.'
    · subst point
      have ends := notPointed rfl
      cases rest with
      | nil => rfl
      | cons next others =>
          have other : next.isDigit = false := ends next rfl
          simp [afterFraction?, afterDigits?, other]
    · simp [afterFraction?, point]
  simp [afterNumeral?, afterHexadecimal?, afterBinary?, afterDecimal?, afterPointed?,
    afterAnyCase?, afterDigits?, notZero, notDigit, noFraction]

/-- A token whose first character begins no gap is read when its class is. -/
theorem isLexeme_of_readKind?
    {kind : TokenKind}
    {first : Char}
    {others rest : List Char}
    (notBlank : isBlank first = false)
    (notSlash : first ≠ '/')
    (notHash : first ≠ '#')
    (read : readKind? (first :: others ++ rest) = some (kind, rest)) :
    IsLexeme kind (first :: others) rest where
  solid := by
    simp only [List.cons_append, afterGapPiece?]
    split <;> simp_all
  read := by
    have notComment : beginsComment (first :: others ++ rest) = false := by
      simp [beginsComment, notSlash]
    rw [readBehindGap?, notComment]
    exact read

/-- Neither a quote nor a mark before one comes first. -/
def BeginsNoText
    (first : Char)
    (others : List Char) :
    Prop :=
  first ≠ '"' ∧ first ≠ '$' ∧ first ≠ '\'' ∧
    (first = '@' → ∀ next ∈ others.head?, next ≠ '"' ∧ next ≠ '$')

/-- A text without quotes in front begins with a numeral, a word, a punctuator or nothing known. -/
theorem readKind?_of_beginsNoText
    {first : Char}
    {others : List Char}
    (beginsNoText : BeginsNoText first others) :
    readKind? (first :: others) =
      ((afterNumeral? (first :: others)).map (asWritten .number (first :: others))).or
        (((afterIdentifier? (first :: others)).map
            (asWritten .identifier (first :: others))).or
          (((Punctuator.read? (first :: others)).map
              fun read => (.punctuator read.1, read.2)).or
            ((unknown? (first :: others)).map fun read => (.unknown read.1, read.2)))) := by
  obtain ⟨notQuote, notDollar, notApostrophe, notMarked⟩ := beginsNoText
  have noRaw : rawText? (first :: others) = none := by
    simp [rawText?, notQuote]
  have noInterpolated : afterInterpolatedText? (first :: others) = none := by
    unfold afterInterpolatedText?
    split <;> simp_all
  have noVerbatim : verbatimText? (first :: others) = none := by
    unfold verbatimText?
    split <;> simp_all
  have noRegular : regularText? (first :: others) = none := by
    simp [regularText?, notQuote]
  have noCharacter : afterCharacterLiteral? (first :: others) = none := by
    simp [afterCharacterLiteral?, notApostrophe]
  simp [readKind?, noRaw, noInterpolated, noVerbatim, noRegular, noCharacter]

/-- A word is read as an identifier when none goes on behind it. -/
theorem IsWord.isLexeme
    {text rest : List Char}
    (word : IsWord text)
    (ends : EndsRun continuesIdentifier rest) :
    IsLexeme (.identifier (String.ofList text)) text rest := by
  have read := word.afterIdentifier?_append ends
  obtain ⟨first, others, rfl, begins⟩ := word.exists_first
  have outside :
      ∀ mark : Char,
        mark ≠ '@' →
        beginsIdentifier mark = false →
        first ≠ mark := by
    intro mark notAt other
    rcases begins with letter | ⟨rfl, _⟩
    · exact ne_of_class letter other
    · exact notAt.symm
  have notBlank : isBlank first = false := by
    rcases begins with letter | ⟨rfl, _⟩
    · exact isBlank_of_begins letter
    · decide
  have notDigit : first.isDigit = false := by
    rcases begins with letter | ⟨rfl, _⟩
    · exact isDigit_of_begins letter
    · decide
  have beginsNoText : BeginsNoText first (others ++ rest) := by
    refine ⟨outside '"' (by decide) (by decide), outside '$' (by decide) (by decide),
      outside '\'' (by decide) (by decide), ?_⟩
    intro marked next member
    rcases begins with letter | ⟨_, second, more, rfl, letter⟩
    · exact absurd marked (ne_of_class letter (by decide))
    · cases member
      exact ⟨ne_of_class letter (by decide), ne_of_class letter (by decide)⟩
  apply isLexeme_of_readKind? notBlank (outside '/' (by decide) (by decide))
    (outside '#' (by decide) (by decide))
  rw [List.cons_append] at read ⊢
  have noNumeral : afterNumeral? (first :: (others ++ rest)) = none :=
    afterNumeral?_eq_none notDigit
      fun point => absurd point (outside '.' (by decide) (by decide))
  have lexeme : taken (first :: (others ++ rest)) rest = first :: others :=
    taken_append_left (first :: others) rest
  rw [readKind?_of_beginsNoText beginsNoText, noNumeral, read]
  simp [asWritten, lexeme]

end InitializerJson.Lexical
