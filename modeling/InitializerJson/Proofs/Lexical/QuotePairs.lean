import InitializerJson.Proofs.Lexical.FramedText
import InitializerJson.Proofs.Lexical.OpenPlace
import InitializerJson.Proofs.Lexical.Respacing

namespace InitializerJson.Lexical

open Character

/-!
# Quotes in pairs

A quote stands in front of a text whose quotes stand in pairs, none of them behind a
backslash.  Whatever literal is read there, raw or regular, its closing quotes leave one
quote of a pair over, with a text of the same kind behind it.  So reading stops at a
quote in the end.  The mark of a verbatim literal changes nothing, as that has no end.
-/

/-! ## Pairs -/

/-- Quotes stand in pairs: every run of them has an even length. -/
inductive QuotesPaired : List Char → Prop where
  | nil :
      QuotesPaired []
  | other
      {character : Char}
      {rest : List Char} :
      character ≠ '"' →
      QuotesPaired rest →
      QuotesPaired (character :: rest)
  | pair
      {rest : List Char} :
      QuotesPaired rest →
      QuotesPaired ('"' :: '"' :: rest)

/-- No backslash escapes a quote, when each goes with the character behind it. -/
inductive EscapesNoQuote : List Char → Prop where
  | nil :
      EscapesNoQuote []
  | other
      {character : Char}
      {rest : List Char} :
      character ≠ '\\' →
      EscapesNoQuote rest →
      EscapesNoQuote (character :: rest)
  | escape
      {mark : Char}
      {rest : List Char} :
      mark ≠ '"' →
      EscapesNoQuote rest →
      EscapesNoQuote ('\\' :: mark :: rest)
  | lone :
      EscapesNoQuote ['\\']

/-- What stays open behind a quote: a text whose quotes stand in pairs, none of them escaped. -/
structure StaysOpen
    (text : List Char) :
    Prop where
  paired : QuotesPaired text
  unescaped : EscapesNoQuote text

/-- Behind one quote of a pair stands the other one. -/
theorem QuotesPaired.behind_quote
    {rest : List Char}
    (paired : QuotesPaired ('"' :: rest)) :
    ∃ others, rest = '"' :: others ∧ QuotesPaired others := by
  cases paired with
  | other notQuote _ => exact absurd rfl notQuote
  | pair others => exact ⟨_, rfl, others⟩

/-- Behind another character quotes stand in pairs. -/
theorem QuotesPaired.behind_other
    {character : Char}
    {rest : List Char}
    (paired : QuotesPaired (character :: rest))
    (notQuote : character ≠ '"') :
    QuotesPaired rest := by
  cases paired with
  | other _ others => exact others
  | pair _ => exact absurd rfl notQuote

/-- Quotes stand in pairs behind a place that does not part a pair. -/
theorem QuotesPaired.behind
    {front rest : List Char}
    (paired : QuotesPaired (front ++ rest))
    (apart : front.getLast? ≠ some '"') :
    QuotesPaired rest := by
  generalize shape : front ++ rest = text at paired
  induction paired generalizing front with
  | nil =>
      rw [(List.append_eq_nil_iff.mp shape).2]
      exact .nil
  | @other character behind notQuote others hypothesis =>
      cases front with
      | nil =>
          subst shape
          exact .other notQuote others
      | cons first front =>
          obtain ⟨_, behindShape⟩ := List.cons.inj shape
          refine hypothesis (fun last => apart ?_) behindShape
          simp [List.getLast?_cons, last]
  | @pair behind others hypothesis =>
      match front, shape, apart with
      | [], shape, _ =>
          subst shape
          exact .pair others
      | [first], shape, apart =>
          obtain ⟨rfl, _⟩ := List.cons.inj shape
          exact absurd rfl apart
      | first :: second :: front, shape, apart =>
          obtain ⟨_, behindFirst⟩ := List.cons.inj shape
          obtain ⟨_, behindSecond⟩ := List.cons.inj behindFirst
          refine hypothesis (fun last => apart ?_) behindSecond
          simp [List.getLast?_cons, last]

/-- An odd number of quotes lacks the last one of a pair. -/
theorem QuotesPaired.behind_odd
    {pairs : Nat}
    {rest : List Char}
    (paired : QuotesPaired (List.replicate (2 * pairs + 1) '"' ++ rest)) :
    ∃ others, rest = '"' :: others ∧ QuotesPaired others := by
  induction pairs with
  | zero => exact paired.behind_quote
  | succ pairs hypothesis =>
      obtain ⟨others, shape, behind⟩ := paired.behind_quote
      obtain ⟨_, rfl⟩ := List.cons.inj shape
      exact hypothesis behind

/-- Quotes in pairs begin with an even number of them. -/
theorem QuotesPaired.exists_run
    {text : List Char}
    (paired : QuotesPaired text) :
    ∃ pairs rest,
      text = List.replicate (2 * pairs) '"' ++ rest ∧
        rest.head? ≠ some '"' ∧
        QuotesPaired rest := by
  induction paired with
  | nil => exact ⟨0, [], rfl, by simp, .nil⟩
  | @other character rest notQuote others _ =>
      exact ⟨0, character :: rest, rfl, by simpa using notQuote, .other notQuote others⟩
  | pair _ hypothesis =>
      obtain ⟨pairs, rest, rfl, ends, others⟩ := hypothesis
      exact ⟨pairs + 1, rest, rfl, ends, others⟩

/-- An even number of quotes before quotes in pairs keeps the pairs. -/
theorem QuotesPaired.replicate_append
    {text : List Char}
    (paired : QuotesPaired text)
    (pairs : Nat) :
    QuotesPaired (List.replicate (2 * pairs) '"' ++ text) := by
  induction pairs with
  | zero => exact paired
  | succ pairs hypothesis => exact .pair hypothesis

/-! ## Escaped quotes -/

/-- A character that is no backslash escapes nothing. -/
theorem EscapesNoQuote.behind_other
    {character : Char}
    {rest : List Char}
    (unescaped : EscapesNoQuote (character :: rest))
    (notBackslash : character ≠ '\\') :
    EscapesNoQuote rest := by
  cases unescaped with
  | other _ others => exact others
  | escape | lone => exact absurd rfl notBackslash

/-- No character of some escapes anything, if none is a backslash. -/
theorem EscapesNoQuote.behind_others
    {front rest : List Char}
    (unescaped : EscapesNoQuote (front ++ rest))
    (notBackslash : ∀ character ∈ front, character ≠ '\\') :
    EscapesNoQuote rest := by
  induction front with
  | nil => exact unescaped
  | cons character front hypothesis =>
      obtain ⟨first, others⟩ := List.forall_mem_cons.mp notBackslash
      exact hypothesis (unescaped.behind_other first) others

/-- Quotes in front escape nothing. -/
theorem EscapesNoQuote.replicate_append
    {text : List Char}
    (unescaped : EscapesNoQuote text)
    (count : Nat) :
    EscapesNoQuote (List.replicate count '"' ++ text) := by
  induction count with
  | zero => exact unescaped
  | succ count hypothesis => exact .other (by decide) hypothesis

/-- Behind a quote no quote is escaped, as no backslash goes with that quote. -/
theorem EscapesNoQuote.behind_quote
    {front rest : List Char}
    (unescaped : EscapesNoQuote (front ++ '"' :: rest)) :
    EscapesNoQuote rest := by
  generalize shape : front ++ '"' :: rest = text at unescaped
  induction unescaped generalizing front with
  | nil => simp at shape
  | @other character behind _ others hypothesis =>
      cases front with
      | nil =>
          obtain ⟨_, rfl⟩ := List.cons.inj shape
          exact others
      | cons first front => exact hypothesis (List.cons.inj shape).2
  | @escape mark behind notQuote others hypothesis =>
      match front, shape with
      | [], shape => cases shape
      | [_], shape =>
          cases shape
          exact absurd rfl notQuote
      | _ :: _ :: front, shape => exact hypothesis (List.cons.inj (List.cons.inj shape).2).2
  | lone =>
      match front, shape with
      | [], shape => cases shape
      | _ :: front, shape => simp at shape

/-! ## One token -/

/-- The digits of a code are hexadecimal digits. -/
theorem exists_digits_of_codeEscape?
    {fewest most : Nat}
    {text : List Char}
    {read : Char × List Char}
    (found : codeEscape? fewest most text = some read) :
    ∃ digits, text = digits ++ read.2 ∧ ∀ digit ∈ digits, isHexDigit digit = true := by
  unfold codeEscape? at found
  simp only at found
  split at found
  · cases found
    have isPrefix : (text.take most).takeWhile isHexDigit <+: text :=
      (List.takeWhile_prefix _).trans (List.take_prefix most text)
    exact ⟨_, (List.prefix_iff_eq_append.mp isPrefix).symm, List.all_eq_true.mp List.all_takeWhile⟩
  · cases found

/-- An escape sequence is a mark and hexadecimal digits behind a backslash. -/
theorem exists_digits_of_escape?
    {escaped : List Char}
    {read : Char × List Char}
    (found : escape? ('\\' :: escaped) = some read) :
    ∃ mark digits,
      escaped = mark :: (digits ++ read.2) ∧ ∀ digit ∈ digits, isHexDigit digit = true := by
  cases escaped with
  | nil => cases found
  | cons mark behind =>
      suffices ∃ digits, behind = digits ++ read.2 ∧ ∀ digit ∈ digits, isHexDigit digit = true by
        obtain ⟨digits, rfl, areDigits⟩ := this
        exact ⟨mark, digits, rfl, areDigits⟩
      unfold escape? at found
      simp only at found
      split at found
      · cases found
        exact ⟨[], rfl, List.forall_mem_nil _⟩
      · split at found
        · exact exists_digits_of_codeEscape? found
        · split at found
          · exact exists_digits_of_codeEscape? found
          · split at found
            · exact exists_digits_of_codeEscape? found
            · cases found

/-- Behind an escape sequence a text stays open. -/
theorem StaysOpen.behind_escape
    {escaped : List Char}
    {read : Char × List Char}
    (opens : StaysOpen ('\\' :: escaped))
    (found : escape? ('\\' :: escaped) = some read) :
    StaysOpen read.2 := by
  obtain ⟨mark, digits, rfl, areDigits⟩ := exists_digits_of_escape? found
  have notBackslash : ∀ digit ∈ digits, digit ≠ '\\' :=
    fun digit member => ne_of_class (areDigits digit member) (by decide)
  have notQuote : ∀ digit ∈ digits, digit ≠ '"' :=
    fun digit member => ne_of_class (areDigits digit member) (by decide)
  obtain ⟨paired, unescaped⟩ := opens
  cases unescaped with
  | other notHere _ => exact absurd rfl notHere
  | escape markNotQuote others =>
      have behindMark : QuotesPaired (digits ++ read.2) :=
        (paired.behind_other (by decide)).behind_other markNotQuote
      refine ⟨behindMark.behind fun last => ?_, others.behind_others notBackslash⟩
      exact notQuote '"' (List.mem_of_getLast? last) rfl

/-- Regular text that ends in a text that stays open leaves one quote of a pair. -/
theorem StaysOpen.behind_regularBody?
    {text : List Char}
    {read : List Char × List Char}
    (opens : StaysOpen text)
    (found : regularBody? text = some read) :
    ∃ others, read.2 = '"' :: others ∧ StaysOpen others := by
  fun_induction regularBody? text generalizing read with
  | case1 => cases found
  | case2 => cases found
  | case3 rest =>
      cases found
      obtain ⟨others, rfl, paired⟩ := opens.paired.behind_quote
      have unescaped : EscapesNoQuote others :=
        (opens.unescaped.behind_other (by decide)).behind_other (by decide)
      exact ⟨others, rfl, paired, unescaped⟩
  | case4 escaped character rest escape hypothesis =>
      obtain ⟨inner, innerFound, rfl⟩ := Option.map_eq_some_iff.mp found
      have behind := hypothesis (opens.behind_escape escape) innerFound
      exact behind
  | case5 => cases found
  | case6 character rest notLineFeed notQuote notBackslash hypothesis =>
      obtain ⟨inner, innerFound, rfl⟩ := Option.map_eq_some_iff.mp found
      have restOpens : StaysOpen rest :=
        ⟨opens.paired.behind_other notQuote, opens.unescaped.behind_other notBackslash⟩
      have behind := hypothesis restOpens innerFound
      exact behind

/-- Raw text that ends in a text that stays open leaves one quote of a pair. -/
theorem StaysOpen.behind_rawText?
    {text : List Char}
    {read : List Char × List Char}
    (opens : StaysOpen text)
    (found : rawText? ('"' :: text) = some read) :
    ∃ others, read.2 = '"' :: others ∧ StaysOpen others := by
  obtain ⟨pairs, body, rfl, ends, paired⟩ := opens.paired.exists_run
  have bodyUnescaped : EscapesNoQuote body := by
    refine opens.unescaped.behind_others fun character member => ?_
    rw [List.eq_of_mem_replicate member]
    decide
  have raw : rawText? (List.replicate (2 * pairs + 1) '"' ++ body) = some read := found
  rw [rawText?_replicate _ ends] at raw
  split at raw
  · obtain ⟨parts, split, rfl⟩ := Option.map_eq_some_iff.mp raw
    have shape := eq_append_of_splitAtMark? split
    -- A quote before the closing ones would be the first of them.
    have apart : parts.1.getLast? ≠ some '"' := by
      intro last
      obtain ⟨content, contentShape⟩ := List.getLast?_eq_some_iff.mp last
      apply first_of_splitAtMark? split (by simp)
      rw [contentShape, List.append_assoc]
      simp only [List.dropLast_replicate, Nat.add_sub_cancel, List.singleton_append,
        ← List.replicate_succ]
      exact (List.suffix_append content _).isInfix
    rw [shape, List.append_assoc] at paired
    obtain ⟨others, rest, othersPaired⟩ := (paired.behind apart).behind_odd
    rw [shape, rest] at bodyUnescaped
    exact ⟨others, rest, othersPaired, bodyUnescaped.behind_quote⟩
  · cases raw

/-- A quote begins raw text, or regular text, or nothing. -/
theorem readKind?_quote
    (text : List Char) :
    readKind? ('"' :: text) =
      ((rawText? ('"' :: text)).map asText).or ((regularBody? text).map asText) := by
  have noNumeral : afterNumeral? ('"' :: text) = none :=
    afterNumeral?_eq_none (by decide) fun same => absurd same (by decide)
  have noIdentifier : afterIdentifier? ('"' :: text) = none := by
    have notLetter : beginsIdentifier '"' = false := by
      decide
    simp [afterIdentifier?, optionally, afterMark?, notLetter]
  have noPunctuator : Punctuator.read? ('"' :: text) = none :=
    Punctuator.read?_eq_none fun punctuator => by cases punctuator <;> decide
  simp [readKind?, afterInterpolatedText?, verbatimText?, regularText?, afterCharacterLiteral?,
    noNumeral, noIdentifier, noPunctuator, unknown?]

/-- A token that begins with a quote in front of what stays open leaves one quote of a pair. -/
theorem StaysOpen.behind_readKind?
    {text : List Char}
    {read : TokenKind × List Char}
    (opens : StaysOpen text)
    (found : readKind? ('"' :: text) = some read) :
    ∃ others, read.2 = '"' :: others ∧ StaysOpen others := by
  rw [readKind?_quote, Option.or_eq_some_iff] at found
  rcases found with raw | ⟨_, regular⟩
  · obtain ⟨part, partFound, rfl⟩ := Option.map_eq_some_iff.mp raw
    exact opens.behind_rawText? partFound
  · obtain ⟨part, partFound, rfl⟩ := Option.map_eq_some_iff.mp regular
    exact opens.behind_regularBody? partFound

/-! ## All tokens -/

/-- A quote is no gap, and begins none. -/
theorem afterGap_quote
    (text : List Char) :
    afterGap ('"' :: text) = '"' :: text := by
  have notBlank : isBlank '"' = false := by
    decide
  exact afterGap_of_solid (by simp [afterGapPiece?, notBlank])

/-- Reading stops at a quote, when one stands in front of what stays open. -/
theorem StaysOpen.exists_rest
    {text : List Char}
    (opens : StaysOpen text) :
    ∃ others, (readTokens ('"' :: text)).rest = '"' :: others := by
  induction length : text.length using Nat.strongRecOn generalizing text with
  | _ count hypothesis =>
      cases read : readKind? ('"' :: text) with
      | none =>
          have unread : readBehindGap? (afterGap ('"' :: text)) = none := by
            rw [afterGap_quote]
            exact read
          rw [readTokens_of_unread unread, afterGap_quote]
          exact ⟨text, rfl⟩
      | some found =>
          obtain ⟨kind, rest⟩ := found
          have readBehind : readBehindGap? (afterGap ('"' :: text)) = some (kind, rest) := by
            rw [afterGap_quote]
            exact read
          have shorter := (readKind?_properSuffix read).shorter
          obtain ⟨others, rfl, othersOpen⟩ := opens.behind_readKind? read
          rw [readTokens_of_read readBehind]
          refine hypothesis others.length ?_ othersOpen rfl
          simp only [List.length_cons] at shorter
          omega

/-- Verbatim text does not end where quotes stand in pairs. -/
theorem QuotesPaired.verbatimBody?_eq_none
    {text : List Char}
    (paired : QuotesPaired text) :
    verbatimBody? text = none := by
  induction paired with
  | nil => rfl
  | other notQuote _ hypothesis =>
      rw [verbatimBody?, hypothesis, Option.map_none]
      · exact fun _ same _ => notQuote same
      · exact notQuote
  | pair _ hypothesis => rw [verbatimBody?, hypothesis, Option.map_none]

/-- Verbatim text that does not end leaves its mark unknown and its quote behind. -/
theorem QuotesPaired.readTokens_at
    {text : List Char}
    (paired : QuotesPaired text) :
    (readTokens ('@' :: '"' :: text)).rest = (readTokens ('"' :: text)).rest := by
  have noRaw : rawText? ('@' :: '"' :: text) = none := by
    simp [rawText?]
  have noVerbatim : verbatimText? ('@' :: '"' :: text) = none :=
    paired.verbatimBody?_eq_none
  have noNumeral : afterNumeral? ('@' :: '"' :: text) = none :=
    afterNumeral?_eq_none (by decide) fun same => absurd same (by decide)
  have noIdentifier : afterIdentifier? ('@' :: '"' :: text) = none := by
    have notLetter : beginsIdentifier '"' = false := by
      decide
    simp [afterIdentifier?, optionally, afterMark?, notLetter]
  have noPunctuator : Punctuator.read? ('@' :: '"' :: text) = none :=
    Punctuator.read?_eq_none fun punctuator => by cases punctuator <;> decide
  have unknown : readKind? ('@' :: '"' :: text) = some (.unknown '@', '"' :: text) := by
    simp [readKind?, noRaw, afterInterpolatedText?, noVerbatim, regularText?,
      afterCharacterLiteral?, noNumeral, noIdentifier, noPunctuator, unknown?]
  have readBack : Token.IsReadBack ⟨.unknown '@', [], ['@']⟩ ('"' :: text) :=
    ⟨List.forall_mem_nil _, isLexeme_of_readKind? (by decide) (by decide) (by decide) unknown⟩
  have rests := congrArg TokenRun.rest (readTokens_of_isReadBack readBack)
  exact rests

end InitializerJson.Lexical
