import InitializerJson.Proofs.Json.QuotedText
import InitializerJson.Proofs.Lexical.EncodedText

namespace InitializerJson.Lexical

open Character JsonText

/-!
# Texts written by their code units

Every text can be written in a regular literal by its UTF-16 code units alone, each of
them behind `\u` in four digits: a character up to U+FFFF by its own code, any other
one by two surrogates.  Escapes are resolved one at a time, and no surrogate is the
code of a character.  So the literal is read as its text exactly where no character
needs two units; each character that does is read as two replacement characters.
-/

/-- The UTF-16 code units of a character. -/
def codeUnits
    (character : Char) :
    List Nat :=
  if character.toNat < 0x10000 then
    [character.toNat]
  else
    [0xd800 + (character.toNat - 0x10000) / 0x400, 0xdc00 + (character.toNat - 0x10000) % 0x400]

/-- Code units in escapes of four hexadecimal digits, in either case. -/
inductive WritesUnits : List Nat → List Char → Prop where
  | nil :
      WritesUnits [] []
  | cons
      {unit : Nat}
      {units : List Nat}
      {digits written : List Char} :
      UnitText digits unit →
      WritesUnits units written →
      WritesUnits (unit :: units) ('\\' :: 'u' :: (digits ++ written))

/-- A character, or a replacement character for each of its two code units. -/
def withoutPair
    (character : Char) :
    List Char :=
  if character.toNat < 0x10000 then
    [character]
  else
    ['\ufffd', '\ufffd']

/-! ## Characters -/

/-- Beyond U+FFFF the code units of a character are the surrogate pair that stands for it. -/
theorem exists_pair_of_codeUnits
    {character : Char}
    (large : ¬ character.toNat < 0x10000) :
    ∃ high low,
      codeUnits character = [high, low] ∧
        isHighSurrogate high = true ∧
        isLowSurrogate low = true ∧
        pairCode high low = character.toNat := by
  have valid : character.toNat.isValidChar := character.valid
  simp only [Nat.isValidChar] at valid
  refine ⟨_, _, if_neg large, ?_, ?_, ?_⟩
  · simp only [isHighSurrogate, Bool.and_eq_true, decide_eq_true_eq]
    omega
  · simp only [isLowSurrogate, Bool.and_eq_true, decide_eq_true_eq]
    omega
  · unfold pairCode
    omega

/-- A surrogate is the code of no character. -/
theorem scalarOrReplacement_of_surrogate
    {unit : Nat}
    (surrogate : isHighSurrogate unit = true ∨ isLowSurrogate unit = true) :
    scalarOrReplacement unit = '\ufffd' := by
  have invalid : ¬ unit.isValidChar := by
    simp only [isHighSurrogate, isLowSurrogate, Bool.and_eq_true, decide_eq_true_eq] at surrogate
    simp only [Nat.isValidChar]
    omega
  rw [scalarOrReplacement, dif_neg invalid]

/-- What the code units of a character stand for one by one. -/
theorem map_scalarOrReplacement_codeUnits
    (character : Char) :
    (codeUnits character).map scalarOrReplacement = withoutPair character := by
  by_cases small : character.toNat < 0x10000
  · rw [codeUnits, if_pos small, withoutPair, if_pos small, List.map_singleton,
      scalarOrReplacement_toNat]
  · obtain ⟨high, low, units, isHigh, isLow, _⟩ := exists_pair_of_codeUnits small
    rw [units, withoutPair, if_neg small, List.map_cons, List.map_singleton,
      scalarOrReplacement_of_surrogate (.inl isHigh), scalarOrReplacement_of_surrogate (.inr isLow)]

/-- A text stays the same exactly where none of its characters needs two code units. -/
theorem flatMap_withoutPair_eq_iff
    {text : List Char} :
    text.flatMap withoutPair = text ↔ ∀ character ∈ text, character.toNat < 0x10000 := by
  induction text with
  | nil => simp
  | cons character text hypothesis =>
      rw [List.flatMap_cons, List.forall_mem_cons, ← hypothesis]
      by_cases small : character.toNat < 0x10000
      · simp [withoutPair, small]
      · -- The replacement character itself needs one unit only.
        have other : '\ufffd' ≠ character := by
          rintro rfl
          exact small (by decide)
        simp [withoutPair, small, other]

/-! ## Literals -/

/-- Each code unit is read as the character of its own code, whatever stands beside it. -/
theorem WritesUnits.regularBody?_append
    {units : List Nat}
    {written : List Char}
    (writes : WritesUnits units written)
    (rest : List Char) :
    regularBody? (written ++ '"' :: rest) = some (units.map scalarOrReplacement, rest) := by
  induction writes with
  | nil => simp [regularBody?]
  | @cons unit units digits written unitText _ hypothesis =>
      have code :
          codeEscape? 4 4 (digits ++ (written ++ '"' :: rest)) =
            some (scalarOrReplacement unit, written ++ '"' :: rest) := by
        rw [codeEscape?_of_digits unitText.isHexDigit (Nat.le_of_eq unitText.length.symm)
          (Nat.le_of_eq unitText.length) (.inl unitText.length), unitText.value]
      have escape :
          escape? ('\\' :: 'u' :: (digits ++ (written ++ '"' :: rest))) =
            some (scalarOrReplacement unit, written ++ '"' :: rest) :=
        code
      rw [List.cons_append, List.cons_append, List.append_assoc, regularBody?_of_escape? escape,
        hypothesis]
      rfl

/-- Escapes begin with a backslash. -/
theorem WritesUnits.head?_cases
    {units : List Nat}
    {written : List Char}
    (writes : WritesUnits units written) :
    written ++ ['"'] = ['"'] ∨ (written ++ ['"']).head? ≠ some '"' := by
  cases writes with
  | nil => exact .inl rfl
  | cons unitText others => exact .inr (by simp)

/-- A literal of code units is one lexeme, unless another quote follows. -/
theorem WritesUnits.isLexeme
    {units : List Nat}
    {written rest : List Char}
    (writes : WritesUnits units written)
    (ends : rest.head? ≠ some '"') :
    IsLexeme (.string (String.ofList (units.map scalarOrReplacement)))
      ('"' :: (written ++ ['"'])) rest := by
  apply isLexeme_of_readKind? (by decide) (by decide) (by decide)
  have noRaw : rawText? ('"' :: ((written ++ ['"']) ++ rest)) = none :=
    rawText?_of_fewQuotes writes.head?_cases (by simp) ends
  have regular :
      regularText? ('"' :: ((written ++ ['"']) ++ rest)) =
        some (units.map scalarOrReplacement, rest) := by
    rw [List.append_assoc]
    exact writes.regularBody?_append rest
  rw [List.cons_append, readKind?, noRaw, regular]
  simp [afterInterpolatedText?, verbatimText?, asText]

/--
A literal that writes a text by its code units alone is a single token.  It holds the text
with two replacement characters for each character that needs two units, which is the text
itself exactly where no character does.
-/
theorem tokenize_codeUnits
    {text : String}
    {written : List Char}
    (writes : WritesUnits (text.toList.flatMap codeUnits) written) :
    tokenize (String.ofList ('"' :: (written ++ ['"']))) =
        .ok [⟨.string (String.ofList (text.toList.flatMap withoutPair)), [],
          '"' :: (written ++ ['"'])⟩] ∧
      (String.ofList (text.toList.flatMap withoutPair) = text ↔
        ∀ character ∈ text.toList, character.toNat < 0x10000) := by
  constructor
  · have ends : ([] : List Char).head? ≠ some '"' := by
      simp
    have isLexeme := writes.isLexeme ends
    have value :
        (text.toList.flatMap codeUnits).map scalarOrReplacement =
          text.toList.flatMap withoutPair := by
      rw [List.map_flatMap]
      exact congrArg (text.toList.flatMap ·) (funext map_scalarOrReplacement_codeUnits)
    rw [value] at isLexeme
    apply tokenize_of_areReadBack
    · simp
    · exact ⟨⟨List.forall_mem_nil _, isLexeme⟩, trivial⟩
  · rw [← flatMap_withoutPair_eq_iff]
    constructor
    · intro same
      rw [← String.toList_ofList (l := text.toList.flatMap withoutPair), same]
    · intro same
      rw [same, String.ofList_toList]

/-- The code units of an accented letter and the sign of the euro are read as these. -/
theorem tokenize_codeUnits_price :
    WritesUnits ("é€".toList.flatMap codeUnits) "\\u00E9\\u20ac".toList ∧
      tokenize (String.ofList ('"' :: ("\\u00E9\\u20ac".toList ++ ['"']))) =
        .ok [⟨.string (String.ofList ("é€".toList.flatMap withoutPair)), [],
          '"' :: ("\\u00E9\\u20ac".toList ++ ['"'])⟩] ∧
      (String.ofList ("é€".toList.flatMap withoutPair) = "é€" ↔
        ∀ character ∈ "é€".toList, character.toNat < 0x10000) := by
  have letter : UnitText ['0', '0', 'E', '9'] 0xe9 :=
    ⟨rfl, List.all_eq_true.mp (by decide), rfl⟩
  have sign : UnitText ['2', '0', 'a', 'c'] 0x20ac :=
    ⟨rfl, List.all_eq_true.mp (by decide), rfl⟩
  have writes : WritesUnits ("é€".toList.flatMap codeUnits) "\\u00E9\\u20ac".toList :=
    .cons letter (.cons sign .nil)
  exact ⟨writes, tokenize_codeUnits writes⟩

/-- The two code units of a face are read as two replacement characters. -/
theorem tokenize_surrogatePair :
    WritesUnits ("😀".toList.flatMap codeUnits) "\\ud83d\\ude00".toList ∧
      tokenize "\"\\ud83d\\ude00\"" =
        .ok [⟨.string "\ufffd\ufffd", [], "\"\\ud83d\\ude00\"".toList⟩] := by
  have high : UnitText ['d', '8', '3', 'd'] 0xd83d :=
    ⟨rfl, List.all_eq_true.mp (by decide), rfl⟩
  have low : UnitText ['d', 'e', '0', '0'] 0xde00 :=
    ⟨rfl, List.all_eq_true.mp (by decide), rfl⟩
  exact ⟨.cons high (.cons low .nil), tokenize_eq_ok_iff.mpr (by decide +kernel)⟩

end InitializerJson.Lexical
