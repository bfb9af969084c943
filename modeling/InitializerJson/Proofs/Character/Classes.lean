import InitializerJson.Character.Basic

namespace InitializerJson.Character

/-!
# Facts about classes of characters

How the classes that the lexical grammar rests on lie to each other: letters and
underscores are no blanks and no digits, and small letters come from letters.
-/

/-- A character in a class is none of the characters outside the class. -/
theorem ne_of_class
    {isClass : Char → Bool}
    {character mark : Char}
    (inside : isClass character = true)
    (outside : isClass mark = false) :
    character ≠ mark := by
  rintro rfl
  rw [inside] at outside
  cases outside

/-- No range of letters meets a range of blanks. -/
theorem alphabeticRanges_without_blanks :
    ∀ letters ∈ alphabeticRanges, ∀ blanks ∈ (0xfeff, 0xfeff) :: whiteSpaceRanges,
      letters.2 < blanks.1 ∨ blanks.2 < letters.1 := by
  decide +kernel

/-- A blank lies in one of the ranges of blanks. -/
theorem exists_range_of_isBlank
    {character : Char}
    (blank : isBlank character = true) :
    ∃ blanks ∈ (0xfeff, 0xfeff) :: whiteSpaceRanges,
      blanks.1 ≤ character.toNat ∧ character.toNat ≤ blanks.2 := by
  simp only [isBlank, isWhiteSpace, Bool.or_eq_true, beq_iff_eq] at blank
  rcases blank with space | rfl
  · obtain ⟨blanks, member, inside⟩ := List.any_eq_true.mp space
    exact ⟨blanks, List.mem_cons_of_mem _ member, by simpa using inside⟩
  · exact ⟨_, List.mem_cons_self, by decide⟩

/-- No blank lies among the digits, letters and underscore of ASCII. -/
theorem blanks_of_ascii :
    ∀ blanks ∈ (0xfeff, 0xfeff) :: whiteSpaceRanges,
      blanks.2 < 48 ∨ 122 < blanks.1 := by
  decide

/-- The capital letters of ASCII have codes from 65 to 90. -/
theorem isUpper_iff
    {character : Char} :
    character.isUpper = true ↔ 65 ≤ character.toNat ∧ character.toNat ≤ 90 :=
  decide_eq_true_iff

/-- The small letters of ASCII have codes from 97 to 122. -/
theorem isLower_iff
    {character : Char} :
    character.isLower = true ↔ 97 ≤ character.toNat ∧ character.toNat ≤ 122 := by
  apply (Bool.and_eq_true_iff).trans
  exact and_congr decide_eq_true_iff decide_eq_true_iff

/-- The letters of ASCII are the capital and the small ones. -/
theorem isAlpha_iff
    {character : Char} :
    character.isAlpha = true ↔ character.isUpper = true ∨ character.isLower = true :=
  Bool.or_eq_true_iff

/-- ASCII letters have codes from 65 to 122. -/
theorem toNat_of_isAlpha
    {character : Char}
    (letter : character.isAlpha = true) :
    65 ≤ character.toNat ∧ character.toNat ≤ 122 := by
  rw [isAlpha_iff, isUpper_iff, isLower_iff] at letter
  omega

/-- Digits have codes from 48 to 57. -/
theorem toNat_of_isDigit
    {character : Char}
    (digit : character.isDigit = true) :
    48 ≤ character.toNat ∧ character.toNat ≤ 57 := by
  simp only [Char.isDigit, Bool.and_eq_true, decide_eq_true_eq, ge_iff_le,
    UInt32.le_iff_toNat_le] at digit
  exact digit

/-- What begins an identifier is an ASCII letter, an underscore or a letter of the table. -/
theorem toNat_of_begins
    {character : Char}
    (begins : beginsIdentifier character = true) :
    (65 ≤ character.toNat ∧ character.toNat ≤ 122) ∨
      (0x80 ≤ character.toNat ∧ inTable alphabeticRanges character = true) := by
  simp only [beginsIdentifier, isAlphabetic, Bool.or_eq_true, beq_iff_eq] at begins
  rcases begins with letter | rfl
  · split at letter
    · exact .inl (toNat_of_isAlpha letter)
    · next large => exact .inr ⟨by omega, letter⟩
  · exact .inl (by decide)

/-- No blank begins an identifier. -/
theorem isBlank_of_begins
    {character : Char}
    (begins : beginsIdentifier character = true) :
    isBlank character = false := by
  rw [Bool.eq_false_iff]
  intro blank
  obtain ⟨blanks, blanksMember, blankLower, blankUpper⟩ := exists_range_of_isBlank blank
  rcases toNat_of_begins begins with ⟨lower, upper⟩ | ⟨large, letter⟩
  · have apart := blanks_of_ascii blanks blanksMember
    omega
  · obtain ⟨letters, member, inside⟩ := List.any_eq_true.mp letter
    simp only [Bool.and_eq_true, decide_eq_true_eq] at inside
    have apart := alphabeticRanges_without_blanks letters member blanks blanksMember
    omega

/-- No digit begins an identifier. -/
theorem isDigit_of_begins
    {character : Char}
    (begins : beginsIdentifier character = true) :
    character.isDigit = false := by
  rw [Bool.eq_false_iff]
  intro digit
  have bound := toNat_of_isDigit digit
  rcases toNat_of_begins begins with ⟨lower, _⟩ | ⟨large, _⟩ <;> omega

/-- The small form of a capital letter lies 32 codes behind it. -/
theorem toNat_toLower_of_isUpper
    {character : Char}
    (upper : character.isUpper = true) :
    character.toLower.toNat = character.toNat + 32 := by
  obtain ⟨lower, bound⟩ := isUpper_iff.mp upper
  have inside : 65 ≤ character.val ∧ character.val ≤ 90 := ⟨lower, bound⟩
  have sum : (character.val + ('a'.val - 'A'.val)).toNat = character.val.toNat + 32 := by
    rw [UInt32.toNat_add]
    have gap : ('a'.val - 'A'.val).toNat = 32 := rfl
    have code : character.toNat = character.val.toNat := rfl
    omega
  unfold Char.toLower
  split
  · exact sum
  · next outside => exact absurd inside outside

/-- The small form of a character is itself, or the small letter of a capital one. -/
theorem toLower_cases
    (character : Char) :
    character.toLower = character ∨
      (character.isUpper = true ∧ character.toLower.isLower = true) := by
  by_cases upper : character.isUpper = true
  · right
    have range := isUpper_iff.mp upper
    have code := toNat_toLower_of_isUpper upper
    refine ⟨upper, isLower_iff.mpr ?_⟩
    omega
  · left
    unfold Char.toLower
    split
    · next inside => exact absurd (isUpper_iff.mpr ⟨inside.1, inside.2⟩) upper
    · rfl

/-- Two characters at most have the same small form. -/
theorem eq_or_eq_of_toLower
    {character small : Char}
    (capital : Char)
    (lower : character.toLower = small)
    (apart : small.toNat = capital.toNat + 32) :
    character = small ∨ character = capital := by
  rcases toLower_cases character with same | ⟨upper, _⟩
  · exact .inl (same.symm.trans lower)
  · right
    have code := toNat_toLower_of_isUpper upper
    rw [lower, apart] at code
    exact Char.toNat_inj.mp (Nat.add_right_cancel code).symm

/-- What cannot go on in an identifier has no other small form. -/
theorem toLower_of_not_continues
    {character : Char}
    (outside : continuesIdentifier character = false) :
    character.toLower = character := by
  rcases toLower_cases character with same | ⟨upper, _⟩
  · exact same
  · have letter : character.isAlpha = true :=
      isAlpha_iff.mpr (.inl upper)
    have small : character.toNat < 0x80 := by
      have code := toNat_of_isAlpha letter
      omega
    simp [continuesIdentifier, isAlphanumeric, small, Char.isAlphanum, letter] at outside

/-- Digits have no other small form. -/
theorem toLower_of_isDigit
    {character : Char}
    (digit : character.isDigit = true) :
    character.toLower = character := by
  rcases toLower_cases character with same | ⟨upper, _⟩
  · exact same
  · have letter : character.isAlpha = true :=
      isAlpha_iff.mpr (.inl upper)
    have lower := toNat_of_isAlpha letter
    have bound := toNat_of_isDigit digit
    omega

/-- Digits may stand in an identifier. -/
theorem continuesIdentifier_of_isDigit
    {character : Char}
    (digit : character.isDigit = true) :
    continuesIdentifier character = true := by
  have bound := toNat_of_isDigit digit
  have small : character.toNat < 0x80 := by
    omega
  simp [continuesIdentifier, isAlphanumeric, small, Char.isAlphanum, digit]

/-- The letters of ASCII may stand in an identifier. -/
theorem continuesIdentifier_of_isAlpha
    {character : Char}
    (letter : character.isAlpha = true) :
    continuesIdentifier character = true := by
  have bound := toNat_of_isAlpha letter
  have small : character.toNat < 0x80 := by
    omega
  simp [continuesIdentifier, isAlphanumeric, small, Char.isAlphanum, letter]

/-- The hexadecimal digits are the decimal ones and six letters in either case. -/
theorem isHexDigit_iff
    {character : Char} :
    isHexDigit character = true ↔
      character.isDigit = true ∨
        (97 ≤ character.toNat ∧ character.toNat ≤ 102) ∨
        (65 ≤ character.toNat ∧ character.toNat ≤ 70) := by
  simp only [isHexDigit, Bool.or_eq_true, Bool.and_eq_true, decide_eq_true_eq, or_assoc,
    Char.le_def, UInt32.le_iff_toNat_le]
  exact Iff.rfl

/-- Hexadecimal digits may stand in an identifier. -/
theorem continuesIdentifier_of_isHexDigit
    {character : Char}
    (digit : isHexDigit character = true) :
    continuesIdentifier character = true := by
  rcases isHexDigit_iff.mp digit with decimal | small | capital
  · exact continuesIdentifier_of_isDigit decimal
  · apply continuesIdentifier_of_isAlpha
    rw [isAlpha_iff, isLower_iff]
    omega
  · apply continuesIdentifier_of_isAlpha
    rw [isAlpha_iff, isUpper_iff]
    omega

/-- No digit is a blank. -/
theorem isBlank_of_isDigit
    {character : Char}
    (digit : character.isDigit = true) :
    isBlank character = false := by
  rw [Bool.eq_false_iff]
  intro blank
  obtain ⟨blanks, member, lower, upper⟩ := exists_range_of_isBlank blank
  have apart := blanks_of_ascii blanks member
  have bound := toNat_of_isDigit digit
  omega

/-- Letters count from ten on as digits. -/
theorem digitValue_of_letter
    {character : Char}
    (letter : 65 ≤ character.toNat) :
    digitValue character =
      if 97 ≤ character.toNat then character.toNat - 97 + 10 else character.toNat - 65 + 10 := by
  have noDigit : ¬ character.isDigit = true := by
    intro digit
    have code := toNat_of_isDigit digit
    omega
  have ordered : 'a' ≤ character ↔ 97 ≤ character.toNat := by
    rw [Char.le_def, UInt32.le_iff_toNat_le]
    exact Iff.rfl
  rw [digitValue, if_neg noDigit]
  simp only [ordered]
  rfl

/-- Hexadecimal digits have the same value in either case. -/
theorem toLower_of_isHexDigit
    {character : Char}
    (digit : isHexDigit character = true) :
    isHexDigit character.toLower = true ∧ digitValue character.toLower = digitValue character := by
  by_cases upper : character.isUpper = true
  · have code := toNat_toLower_of_isUpper upper
    have range := isUpper_iff.mp upper
    have capital : character.toNat ≤ 70 := by
      rcases isHexDigit_iff.mp digit with decimal | small | capital
      · have bound := toNat_of_isDigit decimal
        omega
      · omega
      · exact capital.2
    refine ⟨isHexDigit_iff.mpr (.inr (.inl (by omega))), ?_⟩
    rw [digitValue_of_letter (by omega), digitValue_of_letter range.1, if_pos (by omega),
      if_neg (by omega), code]
    omega
  · rcases toLower_cases character with same | ⟨inside, _⟩
    · rw [same]
      exact ⟨digit, rfl⟩
    · exact absurd inside upper

/-- Hexadecimal digits are worth less than sixteen. -/
theorem digitValue_lt
    {character : Char}
    (digit : isHexDigit character = true) :
    digitValue character < 16 := by
  rcases isHexDigit_iff.mp digit with decimal | small | capital
  · have bound := toNat_of_isDigit decimal
    have zero : '0'.toNat = 48 := rfl
    simp only [digitValue, decimal, ↓reduceIte]
    omega
  · rw [digitValue_of_letter (by omega), if_pos small.1]
    omega
  · rw [digitValue_of_letter capital.1, if_neg (by omega)]
    omega

end InitializerJson.Character
