import InitializerJson.Proofs.Lexical.Tiling
import InitializerJson.Proofs.Lexical.WordLexeme

namespace InitializerJson.Lexical

open Character

/-!
# Encoded texts

A literal may write each character of a text in several ways: as it is, by the
mark that stands for it behind a backslash, or by its code in hexadecimal digits.
Verbatim literals leave everything as it is and only double the quotes.  However
the characters are written, the literal is read as the text, up to its own closing
quote and no further, unless another quote follows it.
-/

/-- The mark that stands for a character behind a backslash, where there is one. -/
def escapeMark? : Char → Option Char
  | '\n' => some 'n'
  | '\r' => some 'r'
  | '\t' => some 't'
  | '\x00' => some '0'
  | '\x07' => some 'a'
  | '\x08' => some 'b'
  | '\x0c' => some 'f'
  | '\x0b' => some 'v'
  | '\\' => some '\\'
  | '"' => some '"'
  | '\'' => some '\''
  | _ => none

/-- Hexadecimal digits, in either case, that write the code of a character. -/
structure WritesCode
    (character : Char)
    (digits : List Char) :
    Prop where
  areDigits : ∀ digit ∈ digits, isHexDigit digit = true
  value : positionalValue 16 digits = character.toNat

/-- The ways to write a character inside a regular literal in front of `rest`. -/
inductive EncodesCharacter
    (character : Char)
    (rest : List Char) :
    List Char → Prop where
  /-- Most characters stand for themselves. -/
  | plain :
      character ≠ '"' →
      character ≠ '\\' →
      character ≠ '\n' →
      EncodesCharacter character rest [character]
  | mark
      {mark : Char} :
      escapeMark? character = some mark →
      EncodesCharacter character rest ['\\', mark]
  | fourDigits
      {digits : List Char} :
      WritesCode character digits →
      digits.length = 4 →
      EncodesCharacter character rest ('\\' :: 'u' :: digits)
  | eightDigits
      {digits : List Char} :
      WritesCode character digits →
      digits.length = 8 →
      EncodesCharacter character rest ('\\' :: 'U' :: digits)
  /-- Fewer than four digits behind `\x` must not go on in the next character. -/
  | upToFourDigits
      {digits : List Char} :
      WritesCode character digits →
      digits.length = 4 ∨ (0 < digits.length ∧ digits.length < 4 ∧ EndsRun isHexDigit rest) →
      EncodesCharacter character rest ('\\' :: 'x' :: digits)

/-- The ways to write a text in a regular literal, from behind its opening quote. -/
inductive EncodesText : List Char → List Char → Prop where
  /-- Behind the text stands the closing quote. -/
  | nil :
      EncodesText [] ['"']
  | cons
      {character : Char}
      {value written rest : List Char} :
      EncodesCharacter character rest written →
      EncodesText value rest →
      EncodesText (character :: value) (written ++ rest)

/-- A character as it stands inside a verbatim literal. -/
def doubleQuote
    (character : Char) :
    List Char :=
  if character = '"' then
    ['"', '"']
  else
    [character]

/-- The literals of a text. -/
inductive IsTextLiteral
    (value : List Char) :
    List Char → Prop where
  | regular
      {written : List Char} :
      EncodesText value written →
      IsTextLiteral value ('"' :: written)
  | verbatim :
      IsTextLiteral value ('@' :: '"' :: (value.flatMap doubleQuote ++ ['"']))

/-! ## Characters -/

/-- The digits of a code are the hexadecimal digits in front, as many as may be. -/
theorem codeEscape?_of_digits
    {fewest most : Nat}
    {digits behind : List Char}
    (areDigits : ∀ digit ∈ digits, isHexDigit digit = true)
    (enough : fewest ≤ digits.length)
    (fits : digits.length ≤ most)
    (ends : digits.length = most ∨ EndsRun isHexDigit behind) :
    codeEscape? fewest most (digits ++ behind) =
      some (scalarOrReplacement (positionalValue 16 digits), behind) := by
  have endsTaken : EndsRun isHexDigit (behind.take (most - digits.length)) := by
    intro next first
    rcases ends with full | ends
    · rw [full, Nat.sub_self, List.take_zero] at first
      cases first
    · apply ends next
      cases behind with
      | nil => simp at first
      | cons head others =>
          cases left : most - digits.length with
          | zero => simp [left] at first
          | succ room => simpa [left] using first
  have front : ((digits ++ behind).take most).takeWhile isHexDigit = digits := by
    rw [List.take_append, List.take_of_length_le fits]
    exact takeWhile_append_of_endsRun areDigits endsTaken
  simp [codeEscape?, front, enough]

/-- The code of a character stands for it. -/
theorem scalarOrReplacement_toNat
    (character : Char) :
    scalarOrReplacement character.toNat = character := by
  have valid : character.toNat.isValidChar := character.valid
  rw [scalarOrReplacement, dif_pos valid]
  rfl

/-- The digits of a character's code are read as the character. -/
theorem WritesCode.codeEscape?_append
    {character : Char}
    {digits rest : List Char}
    (writes : WritesCode character digits)
    {fewest most : Nat}
    (enough : fewest ≤ digits.length)
    (fits : digits.length ≤ most)
    (ends : digits.length = most ∨ EndsRun isHexDigit rest) :
    codeEscape? fewest most (digits ++ rest) = some (character, rest) := by
  rw [codeEscape?_of_digits writes.areDigits enough fits ends, writes.value,
    scalarOrReplacement_toNat]

/-- The mark of a character is found in the table of simple escapes. -/
theorem lookup_simpleEscapes
    {character mark : Char}
    (marked : escapeMark? character = some mark) :
    simpleEscapes.lookup mark = some character := by
  unfold escapeMark? at marked
  split at marked <;> cases marked <;> rfl

/-- Behind an escape sequence a regular literal goes on. -/
theorem regularBody?_of_escape?
    {character : Char}
    {escaped rest : List Char}
    (read : escape? ('\\' :: escaped) = some (character, rest)) :
    regularBody? ('\\' :: escaped) = (regularBody? rest).map (prepend character) := by
  rw [regularBody?]
  split
  · next other behind found =>
      rw [read] at found
      cases found
      rfl
  · next none =>
      rw [read] at none
      cases none

/-- A character that is written in one of its ways is read back in front of the rest. -/
theorem EncodesCharacter.regularBody?_append
    {character : Char}
    {written rest : List Char}
    (encodes : EncodesCharacter character rest written)
    (more : List Char)
    (filled : rest ≠ []) :
    regularBody? (written ++ (rest ++ more)) =
      (regularBody? (rest ++ more)).map (prepend character) := by
  have digitsEnd (ends : EndsRun isHexDigit rest) : EndsRun isHexDigit (rest ++ more) := by
    obtain ⟨next, others, rfl⟩ := List.exists_cons_of_ne_nil filled
    exact endsRun_cons (ends next rfl)
  cases encodes with
  | plain notQuote notBackslash notLineFeed =>
      rw [List.cons_append, List.nil_append, regularBody?]
      · exact notLineFeed
      · exact notQuote
      · exact notBackslash
  | @mark mark marked =>
      apply regularBody?_of_escape?
      simp [escape?, lookup_simpleEscapes marked]
  | @fourDigits digits writes length =>
      apply regularBody?_of_escape?
      have read : codeEscape? 4 4 (digits ++ (rest ++ more)) = some (character, rest ++ more) :=
        writes.codeEscape?_append (Nat.le_of_eq length.symm) (Nat.le_of_eq length) (.inl length)
      exact read
  | @eightDigits digits writes length =>
      apply regularBody?_of_escape?
      have read : codeEscape? 8 8 (digits ++ (rest ++ more)) = some (character, rest ++ more) :=
        writes.codeEscape?_append (Nat.le_of_eq length.symm) (Nat.le_of_eq length) (.inl length)
      exact read
  | @upToFourDigits digits writes length =>
      apply regularBody?_of_escape?
      have read : codeEscape? 1 4 (digits ++ (rest ++ more)) = some (character, rest ++ more) := by
        rcases length with length | ⟨nonempty, few, ends⟩
        · exact writes.codeEscape?_append (by omega) (by omega) (.inl length)
        · exact writes.codeEscape?_append nonempty (Nat.le_of_lt few) (.inr (digitsEnd ends))
      exact read

/-- No way to write a character begins with a quote. -/
theorem EncodesCharacter.exists_first
    {character : Char}
    {written rest : List Char}
    (encodes : EncodesCharacter character rest written) :
    ∃ first others, written = first :: others ∧ first ≠ '"' := by
  cases encodes with
  | plain notQuote _ _ => exact ⟨character, [], rfl, notQuote⟩
  | mark | fourDigits | eightDigits | upToFourDigits => exact ⟨'\\', _, rfl, by decide⟩

/-! ## Texts -/

/-- What writes a text ends in its closing quote. -/
theorem EncodesText.ne_nil
    {value written : List Char}
    (encodes : EncodesText value written) :
    written ≠ [] := by
  cases encodes with
  | nil => simp
  | cons first others =>
      obtain ⟨character, behind, shape, _⟩ := first.exists_first
      simp [shape]

/-- A text is read back from any way to write it, whatever follows its closing quote. -/
theorem EncodesText.regularBody?_append
    {value written : List Char}
    (encodes : EncodesText value written)
    (more : List Char) :
    regularBody? (written ++ more) = some (value, more) := by
  induction encodes with
  | nil => simp [regularBody?]
  | @cons character value written rest first others hypothesis =>
      rw [List.append_assoc, first.regularBody?_append more others.ne_nil, hypothesis]
      rfl

/-- What writes a text does not begin with a quote, unless the text is empty. -/
theorem EncodesText.head?_cases
    {value written : List Char}
    (encodes : EncodesText value written) :
    written = ['"'] ∨ written.head? ≠ some '"' := by
  cases encodes with
  | nil => exact .inl rfl
  | cons first others =>
      obtain ⟨character, behind, rfl, notQuote⟩ := first.exists_first
      exact .inr (by simpa using notQuote)

/-- One or two quotes in front do not make a text raw. -/
theorem rawText?_of_fewQuotes
    {written rest : List Char}
    (front : written = ['"'] ∨ written.head? ≠ some '"')
    (filled : written ≠ [])
    (ends : rest.head? ≠ some '"') :
    rawText? ('"' :: (written ++ rest)) = none := by
  have few : (('"' :: (written ++ rest)).takeWhile (· == '"')).length < 3 := by
    rcases front with rfl | notQuote
    · cases rest with
      | nil => decide
      | cons next others =>
          have other : next ≠ '"' := by
            simpa using ends
          simp [other]
    · obtain ⟨first, others, rfl⟩ := List.exists_cons_of_ne_nil filled
      have other : first ≠ '"' := by
        simpa using notQuote
      simp [other]
  simp only [rawText?]
  rw [if_neg (by omega)]

/-- A text is read back from its verbatim form, unless another quote follows. -/
theorem verbatimBody?_flatMap
    (value : List Char)
    {rest : List Char}
    (ends : rest.head? ≠ some '"') :
    verbatimBody? (value.flatMap doubleQuote ++ '"' :: rest) = some (value, rest) := by
  induction value with
  | nil =>
      rw [List.flatMap_nil, List.nil_append, verbatimBody?]
      rintro behind rfl
      exact ends rfl
  | cons character value hypothesis =>
      rw [List.flatMap_cons, List.append_assoc]
      by_cases quote : character = '"'
      · subst quote
        rw [show doubleQuote '"' = ['"', '"'] from rfl, List.cons_append, List.cons_append,
          List.nil_append, verbatimBody?, hypothesis]
        rfl
      · rw [doubleQuote, if_neg quote, List.cons_append, List.nil_append, verbatimBody?, hypothesis]
        · rfl
        · exact fun _ same _ => quote same
        · exact quote

/-- A literal of a text is read back as that text, unless another quote follows. -/
theorem IsTextLiteral.isLexeme
    {value literal rest : List Char}
    (isLiteral : IsTextLiteral value literal)
    (ends : rest.head? ≠ some '"') :
    IsLexeme (.string (String.ofList value)) literal rest := by
  cases isLiteral with
  | @regular written encodes =>
      apply isLexeme_of_readKind? (by decide) (by decide) (by decide)
      have noRaw : rawText? ('"' :: (written ++ rest)) = none :=
        rawText?_of_fewQuotes encodes.head?_cases encodes.ne_nil ends
      have regular : regularText? ('"' :: (written ++ rest)) = some (value, rest) :=
        encodes.regularBody?_append rest
      rw [List.cons_append, readKind?, noRaw, regular]
      simp [afterInterpolatedText?, verbatimText?, asText]
  | verbatim =>
      apply isLexeme_of_readKind? (by decide) (by decide) (by decide)
      have verbatim :
          verbatimText? ('@' :: '"' :: (value.flatMap doubleQuote ++ '"' :: rest)) =
            some (value, rest) :=
        verbatimBody?_flatMap value ends
      simp only [List.cons_append, List.append_assoc, List.nil_append]
      rw [readKind?, verbatim]
      simp [rawText?, afterInterpolatedText?, asText]

/--
However a text is written as a literal at the front of a source, the first token is
that text, and its span is the literal.
-/
theorem tokenize_textLiteral
    {value literal rest : List Char}
    {source : String}
    {tokens : List Token}
    (isLiteral : IsTextLiteral value literal)
    (ends : rest.head? ≠ some '"')
    (begins : source.toList = literal ++ rest)
    (tokenized : tokenize source = .ok tokens) :
    ∃ first others,
      placeTokens tokens = first :: others ∧
        first.token.kind = .string (String.ofList value) ∧
        first.token.lexeme = literal ∧
        first.offset = 0 ∧
        first.endOffset = byteLength literal := by
  obtain ⟨rfl, _⟩ := tokenize_eq_ok_iff.mp tokenized
  have readBack : Token.IsReadBack ⟨.string (String.ofList value), [], literal⟩ rest :=
    ⟨List.forall_mem_nil _, isLiteral.isLexeme ends⟩
  have read := readTokens_of_isReadBack readBack
  rw [List.nil_append, ← begins] at read
  rw [read]
  exact ⟨_, _, rfl, rfl, rfl, rfl, Nat.zero_add _⟩

/-- Five characters, each of them written in another way. -/
theorem encodesText_fiveWays :
    EncodesText ['a', '"', 'é', '\n', 'ü'] "a\\\"\\u00E9\\n\\xfc\"".toList := by
  have inFour : WritesCode 'é' ['0', '0', 'E', '9'] :=
    ⟨List.all_eq_true.mp (by decide), rfl⟩
  have inTwo : WritesCode 'ü' ['f', 'c'] :=
    ⟨List.all_eq_true.mp (by decide), rfl⟩
  have last : EncodesText ['ü'] (['\\', 'x', 'f', 'c'] ++ ['"']) :=
    .cons (.upToFourDigits inTwo (.inr ⟨by decide, by decide, endsRun_cons rfl⟩)) .nil
  exact .cons (.plain (by decide) (by decide) (by decide))
    (.cons (.mark rfl) (.cons (.fourDigits inFour rfl) (.cons (.mark rfl) last)))

/-- The tokens of a literal that writes five characters in different ways. -/
def fiveWaysTokens : List Token :=
  [
    ⟨.string "a\"é\nü", [], "\"a\\\"\\u00E9\\n\\xfc\"".toList⟩,
    ⟨.punctuator .semicolon, [], [';']⟩
  ]

/-- A literal that writes five characters in different ways is read as these. -/
theorem tokenize_textLiteral_fiveWays :
    tokenize "\"a\\\"\\u00E9\\n\\xfc\";" = .ok fiveWaysTokens ∧
      ∃ first others,
        placeTokens fiveWaysTokens = first :: others ∧
          first.token.kind = .string (String.ofList ['a', '"', 'é', '\n', 'ü']) ∧
          first.token.lexeme = "\"a\\\"\\u00E9\\n\\xfc\"".toList ∧
          first.offset = 0 ∧
          first.endOffset = byteLength "\"a\\\"\\u00E9\\n\\xfc\"".toList := by
  have tokenized : tokenize "\"a\\\"\\u00E9\\n\\xfc\";" = .ok fiveWaysTokens :=
    tokenize_eq_ok_iff.mpr (by decide +kernel)
  have notQuote : [';'].head? ≠ some '"' := by
    decide
  exact ⟨tokenized,
    tokenize_textLiteral (.regular encodesText_fiveWays) notQuote rfl tokenized⟩

end InitializerJson.Lexical
