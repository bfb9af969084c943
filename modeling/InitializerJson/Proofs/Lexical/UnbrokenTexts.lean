import InitializerJson.Lexical.Listing
import InitializerJson.Proofs.Lexical.NumeralText
import InitializerJson.Proofs.Lexical.WordLexeme

namespace InitializerJson.Lexical

open Character

/-!
# Shown texts without line feeds

The text that a listing shows of a token is in one line for all classes of tokens but one.
No line feed can stand in a numeral, a word, a character literal or a punctuator, and the
quoted forms of strings and lone characters write it as an escape.  Interpolated text is
shown as it is written, with the line feeds that it reaches over.
-/

/-- The line feeds in the text that is shown of a token: those of interpolated text. -/
def TokenKind.breaks : TokenKind → Nat
  | interpolated text => text.toList.count '\n'
  | _ => 0

/-! ## Numerals -/

/-- Digits have no line feed. -/
theorem DigitsText.unbroken
    {text : List Char}
    (digits : DigitsText text) :
    '\n' ∉ text := by
  obtain ⟨first, others⟩ := digits
  rintro (_ | ⟨_, member⟩)
  · cases first
  · exact ne_of_class (others _ member) rfl rfl

/-- A fraction has no line feed. -/
theorem PointedText.unbroken
    {text : List Char}
    (pointed : PointedText text) :
    '\n' ∉ text := by
  cases pointed with
  | absent => exact List.not_mem_nil
  | present digits => simpa using digits.unbroken

/-- An exponent has no line feed. -/
theorem ScaledText.unbroken
    {text : List Char}
    (scaled : ScaledText text) :
    '\n' ∉ text := by
  cases scaled with
  | absent => exact List.not_mem_nil
  | @present mark sign digits isMark signed isDigits =>
      have notMark : '\n' ≠ mark := by
        rintro rfl
        cases isMark
      have notSign : '\n' ∉ sign := by
        rcases signed with rfl | rfl | rfl <;> decide
      simp only [List.mem_cons, List.mem_append, not_or]
      exact ⟨notMark, notSign, isDigits.unbroken⟩

/-- A type suffix has no line feed. -/
theorem SuffixText.unbroken
    {suffixes : List (List Char)}
    (subset : suffixes ⊆ integerSuffixes ++ realSuffixes)
    {text : List Char}
    (isSuffix : SuffixText suffixes text) :
    '\n' ∉ text := by
  cases isSuffix with
  | absent => exact List.not_mem_nil
  | present small =>
      have noBreak : ∀ suffix ∈ integerSuffixes ++ realSuffixes, '\n' ∉ suffix := by
        decide
      intro member
      exact noBreak _ (subset small) (List.mem_map.mpr ⟨'\n', member, rfl⟩)

/-- A numeral has no line feed. -/
theorem NumeralText.unbroken
    {text : List Char}
    (numeral : NumeralText text) :
    '\n' ∉ text := by
  cases numeral with
  | @based base mark digits suffix isMark _ inBase isSuffix =>
      have notMark : '\n' ≠ mark := by
        rintro rfl
        cases base <;> cases isMark
      have notDigit : '\n' ∉ digits := by
        intro member
        have inside := inBase '\n' member
        cases base <;> cases inside
      have notSuffix := isSuffix.unbroken (List.subset_append_left _ _)
      simp [notMark, notDigit, notSuffix]
  | decimal isWhole pointed scaled isSuffix =>
      simp [isWhole.unbroken, pointed.unbroken, scaled.unbroken,
        isSuffix.unbroken (List.Subset.refl _)]
  | pointed isDigits scaled isSuffix =>
      simp [isDigits.unbroken, scaled.unbroken,
        isSuffix.unbroken (List.subset_append_right _ _)]

/-! ## Words, character literals and punctuators -/

/-- A word has no line feed. -/
theorem IsWord.unbroken
    {text : List Char}
    (word : IsWord text) :
    '\n' ∉ text := by
  obtain ⟨mark, first, others, rfl, shape, begins, continues⟩ := word.exists_parts
  have notMark : '\n' ∉ mark := by
    rcases shape with rfl | rfl <;> decide
  have notFirst : '\n' ≠ first := (ne_of_class begins (by decide)).symm
  have notLater : '\n' ∉ others := fun member => ne_of_class (continues _ member) (by decide) rfl
  simp [notMark, notFirst, notLater]

/-- The digits of a code have no line feed. -/
theorem exists_unbroken_of_codeEscape?
    {fewest most : Nat}
    {text : List Char}
    {read : Char × List Char}
    (found : codeEscape? fewest most text = some read) :
    ∃ digits, text = digits ++ read.2 ∧ '\n' ∉ digits := by
  unfold codeEscape? at found
  simp only at found
  split at found
  · cases found
    have areDigits : ∀ digit ∈ (text.take most).takeWhile isHexDigit, isHexDigit digit = true :=
      List.all_eq_true.mp List.all_takeWhile
    have front : (text.take most).takeWhile isHexDigit <+: text :=
      (List.takeWhile_prefix _).trans (List.take_prefix most text)
    generalize (text.take most).takeWhile isHexDigit = digits at areDigits front ⊢
    obtain ⟨behind, rfl⟩ := front
    refine ⟨digits, by simp, fun member => ?_⟩
    exact ne_of_class (areDigits _ member) (by decide) rfl
  · cases found

/-- An escape sequence has no line feed, whatever character it stands for. -/
theorem exists_unbroken_of_escape?
    {text : List Char}
    {read : Char × List Char}
    (found : escape? text = some read) :
    ∃ escaped, text = escaped ++ read.2 ∧ '\n' ∉ escaped := by
  unfold escape? at found
  split at found
  · next mark behind =>
      have notMark : '\n' ≠ mark := by
        rintro rfl
        cases found
      have coded {fewest most : Nat}
          (code : codeEscape? fewest most behind = some read) :
          ∃ escaped, '\\' :: mark :: behind = escaped ++ read.2 ∧ '\n' ∉ escaped := by
        obtain ⟨digits, rfl, unbroken⟩ := exists_unbroken_of_codeEscape? code
        exact ⟨'\\' :: mark :: digits, rfl, by simp [notMark, unbroken]⟩
      split at found
      · cases found
        exact ⟨['\\', mark], rfl, by simp [notMark]⟩
      · split at found
        · exact coded found
        · split at found
          · exact coded found
          · split at found
            · exact coded found
            · cases found
  · cases found

/-- A character literal has no line feed. -/
theorem exists_unbroken_of_afterCharacterLiteral?
    {text rest : List Char}
    (found : afterCharacterLiteral? text = some rest) :
    ∃ literal, text = literal ++ rest ∧ '\n' ∉ literal := by
  unfold afterCharacterLiteral? at found
  split at found
  · next behind =>
      obtain ⟨middle, body, closed⟩ := Option.bind_eq_some_iff.mp found
      obtain rfl := afterMark?_eq_some_iff.mp closed
      have inner : ∃ written, behind = written ++ (['\''] ++ rest) ∧ '\n' ∉ written := by
        unfold afterCharacterBody? at body
        split at body
        · cases body
        · obtain ⟨read, escape, same⟩ := Option.map_eq_some_iff.mp body
          rw [← same]
          exact exists_unbroken_of_escape? escape
        · next character others _ =>
            split at body
            · cases body
            · next apart =>
                cases body
                have notFeed : character ≠ '\n' := by
                  rintro rfl
                  exact apart rfl
                exact ⟨[character], rfl, by simpa using Ne.symm notFeed⟩
      obtain ⟨written, rfl, unbroken⟩ := inner
      exact ⟨'\'' :: (written ++ ['\'']), by simp, by simp [unbroken]⟩
  · cases found

/-- A punctuator has no line feed. -/
theorem Punctuator.unbroken
    (mark : Punctuator) :
    '\n' ∉ mark.spelling := by
  cases mark <;> decide

/-! ## Quoted texts -/

/-- The digits of a number in hexadecimal have no line feed. -/
theorem unbroken_toDigits
    (number : Nat) :
    '\n' ∉ Nat.toDigits 16 number := by
  have noDigit : ∀ digit < 16, '\n' ≠ Nat.digitChar digit := by
    decide
  induction number using Nat.strongRecOn with
  | ind number hypothesis =>
      rw [Nat.toDigits_eq_if (by decide)]
      split
      · next small => simp [noDigit number small]
      · next large =>
          have front := hypothesis (number / 16) (by omega)
          have last := noDigit (number % 16) (by omega)
          simp [front, last]

/-- A character inside quotes is shown without line feeds. -/
theorem unbroken_showInside
    (mark character : Char) :
    '\n' ∉ showInside mark character := by
  unfold showInside
  split
  · decide
  split
  · decide
  split
  · decide
  split
  · decide
  next notFeed =>
  split
  · simpa using Ne.symm notFeed
  split
  · simp [showCode, unbroken_toDigits]
  · simpa using Ne.symm notFeed

/-- A quoted text is shown without line feeds. -/
theorem unbroken_showQuoted
    {mark : Char}
    (notBreak : mark ≠ '\n')
    (characters : List Char) :
    '\n' ∉ (showQuoted mark characters).toList := by
  simp [showQuoted, Ne.symm notBreak, unbroken_showInside]

/-! ## Tokens -/

/-- A kind that is kept as written carries what was taken for it. -/
theorem unbroken_taken
    {text rest : List Char}
    (unbroken : ∃ written, text = written ++ rest ∧ '\n' ∉ written) :
    '\n' ∉ taken text rest := by
  obtain ⟨written, rfl, noFeed⟩ := unbroken
  rwa [taken_append_left]

/-- The line feeds in the text that is shown of a token are those of interpolated text. -/
theorem count_shownText
    {text : List Char}
    {read : TokenKind × List Char}
    (found : readKind? text = some read) :
    read.1.shownText.toList.count '\n' = read.1.breaks := by
  simp only [readKind?, Option.or_eq_some_iff, Option.map_eq_some_iff] at found
  rcases found with
    ⟨part, _, rfl⟩ | ⟨_, ⟨rest, _, rfl⟩ | ⟨_, ⟨part, _, rfl⟩ |
    ⟨_, ⟨part, _, rfl⟩ | ⟨_, ⟨rest, character, rfl⟩ | ⟨_, ⟨rest, numeral, rfl⟩ |
    ⟨_, ⟨rest, identifier, rfl⟩ | ⟨_, ⟨part, _, rfl⟩ |
    ⟨_, ⟨part, _, rfl⟩⟩⟩⟩⟩⟩⟩⟩⟩
  · exact List.count_eq_zero.mpr (unbroken_showQuoted (by decide) _)
  · rfl
  · exact List.count_eq_zero.mpr (unbroken_showQuoted (by decide) _)
  · exact List.count_eq_zero.mpr (unbroken_showQuoted (by decide) _)
  · have literal := unbroken_taken (exists_unbroken_of_afterCharacterLiteral? character)
    simpa [asWritten, TokenKind.shownText, TokenKind.text, TokenKind.breaks] using
      List.count_eq_zero.mpr literal
  · obtain ⟨written, rfl, isNumeral⟩ := exists_numeralText numeral
    simpa [asWritten, TokenKind.shownText, TokenKind.text, TokenKind.breaks] using
      List.count_eq_zero.mpr isNumeral.unbroken
  · obtain ⟨written, rfl, isWord⟩ := exists_word_of_afterIdentifier? identifier
    simpa [asWritten, TokenKind.shownText, TokenKind.text, TokenKind.breaks] using
      List.count_eq_zero.mpr isWord.unbroken
  · simpa [TokenKind.shownText, TokenKind.text, TokenKind.breaks] using
      List.count_eq_zero.mpr part.1.unbroken
  · exact List.count_eq_zero.mpr (unbroken_showQuoted (by decide) _)

/-- The line feeds in the text shown of any token of a text are those of interpolated text. -/
theorem count_shownText_readTokens
    (text : List Char) :
    ∀ token ∈ (readTokens text).tokens,
      token.kind.shownText.toList.count '\n' = token.kind.breaks := by
  fun_induction readTokens text with
  | case1 => simp
  | case2 text start kind rest found run hypothesis =>
      exact List.forall_mem_cons.mpr
        ⟨count_shownText (readKind?_of_readBehindGap? found), hypothesis⟩

end InitializerJson.Lexical
