import InitializerJson.Proofs.Character.Classes
import InitializerJson.Proofs.Number.NormalNumeral
import Mathlib.Algebra.Group.Nat.Defs

namespace InitializerJson

open Character JsonText

/-!
# The numbers that literals write

Every number that some literal writes has a plain text of its own: a sign, digits
without a leading zero, a fraction and an exponent.  Read as a literal, what
stands behind the sign writes the same number again.
-/

/-- A number that some literal writes, negated or not. -/
def Number.IsOfLiteral
    (number : Number) :
    Prop :=
  ∃ text negative, ofLiteral? text negative = some number

/-- The characters of plain numerals. -/
def isPlainNumeral
    (character : Char) :
    Bool :=
  character.isDigit || character == '.' || character == 'e' ||
    character == '+' || character == '-'

/-- Plain numerals have no separators and no capital letters. -/
theorem clean_of_plain
    {text : List Char}
    (plain : ∀ character ∈ text, isPlainNumeral character = true) :
    Number.clean text = text := by
  have kept : text.filter (· != '_') = text := by
    apply List.filter_eq_self.mpr
    intro character member
    have inside := plain character member
    rw [bne_iff_ne]
    rintro rfl
    cases inside
  have small : ∀ character ∈ text, character.toLower = id character := by
    intro character member
    have inside := plain character member
    simp only [isPlainNumeral, Bool.or_eq_true, beq_iff_eq] at inside
    rcases inside with (((digit | rfl) | rfl) | rfl) | rfl
    · exact toLower_of_isDigit digit
    all_goals decide
  rw [Number.clean, kept, List.map_congr_left small, List.map_id]

/-- A plain numeral that ends in a digit has neither base nor type suffix. -/
theorem ofLiteral?_of_plain
    {front : List Char}
    {digit : Char}
    (plain : ∀ character ∈ front, isPlainNumeral character = true)
    (isDigit : digit.isDigit = true)
    (negative : Bool) :
    Number.ofLiteral? (String.ofList (front ++ [digit])) negative =
      if (front ++ [digit]).contains '.' || (front ++ [digit]).contains 'e' then
        Number.ofRealText? negative (front ++ [digit])
      else
        Number.ofDigits? 10 negative (front ++ [digit]) := by
  have allPlain : ∀ character ∈ front ++ [digit], isPlainNumeral character = true := by
    intro character member
    rcases List.mem_append.mp member with inFront | last
    · exact plain character inFront
    · cases List.mem_singleton.mp last
      simp [isPlainNumeral, isDigit]
  have noReal : Number.isRealSuffix digit = false := by
    simp [Number.isRealSuffix, ne_of_class isDigit]
  have noInteger : Number.isIntegerSuffix digit = false := by
    simp [Number.isIntegerSuffix, ne_of_class isDigit]
  have decimal :
      Number.ofDecimalText? negative (front ++ [digit]) =
        if (front ++ [digit]).contains '.' || (front ++ [digit]).contains 'e' then
          Number.ofRealText? negative (front ++ [digit])
        else
          Number.ofDigits? 10 negative (front ++ [digit]) := by
    simp [Number.ofDecimalText?, noReal, Number.withoutIntegerSuffix, noInteger]
  rw [Number.ofLiteral?, String.toList_ofList, clean_of_plain allPlain, ← decimal]
  unfold Number.ofCleanText?
  split
  · next shape =>
      have inside := allPlain 'x' (by simp [shape])
      cases inside
  · next shape =>
      have inside := allPlain 'b' (by simp [shape])
      cases inside
  · rfl

/-- What is no digit does not stand among the digits of a number. -/
theorem notMem_decimalDigits
    {mark : Char}
    (other : mark.isDigit = false)
    (value : Nat) :
    mark ∉ Nat.toDigits 10 value := by
  intro member
  rw [isDigit_of_mem_decimalDigits value mark member] at other
  cases other

/-- Nothing is taken away from a text that begins with no plus sign. -/
theorem withoutPlus_of_notMem
    {text : List Char}
    (absent : '+' ∉ text) :
    Number.withoutPlus text = text := by
  unfold Number.withoutPlus
  split
  · next rest =>
      simp at absent
  · rfl

/-- Decimal digits are digits of the base ten. -/
theorem isDigitOf_of_isDigit
    {character : Char}
    (digit : character.isDigit = true) :
    Number.isDigitOf 10 character = true := by
  have bound := toNat_of_isDigit digit
  have value := digitValue_of_isDigit digit
  have zero : '0'.toNat = 48 := rfl
  have small : digitValue character < 10 := by
    omega
  simp [Number.isDigitOf, isHexDigit, digit, small]

/-- Digits of a number below `2 ^ 64` write this number. -/
theorem ofDigits?_decimalDigits
    {value : Nat}
    (bounded : value < 2 ^ 64)
    (negative : Bool) :
    Number.ofDigits? 10 negative (Nat.toDigits 10 value) =
      some (.integer (if negative then -value else value)) := by
  have noPlus := withoutPlus_of_notMem (notMem_decimalDigits (show '+'.isDigit = false from rfl) value)
  have written := positionalValue_decimalDigits value
  have filled : (Nat.toDigits 10 value).isEmpty = false :=
    List.isEmpty_eq_false_iff.mpr Nat.toDigits_ne_nil
  have areDecimal : (Nat.toDigits 10 value).all (Number.isDigitOf 10) = true := by
    rw [List.all_eq_true]
    intro character member
    exact isDigitOf_of_isDigit (isDigit_of_mem_decimalDigits value character member)
  have fits : value < Nat.pow 2 64 :=
    bounded
  simp only [Number.ofDigits?, noPlus, written, areDecimal, filled, fits, decide_true,
    Bool.not_false, Bool.and_self, ↓reduceIte]

/-- An integer below `2 ^ 64` is written by its digits. -/
theorem ofLiteral?_decimalDigits
    {value : Int}
    (bounded : value.natAbs < 2 ^ 64) :
    Number.ofLiteral? (String.ofList (Nat.toDigits 10 value.natAbs)) (decide (value < 0)) =
      some (.integer value) := by
  have areDigits := isDigit_of_mem_decimalDigits value.natAbs
  have noPoint := notMem_decimalDigits (show '.'.isDigit = false from rfl) value.natAbs
  have noExponent := notMem_decimalDigits (show 'e'.isDigit = false from rfl) value.natAbs
  have signed : (if decide (value < 0) = true then -(value.natAbs : Int) else value.natAbs) =
      value := by
    simp only [decide_eq_true_eq]
    split <;> omega
  have digits := ofDigits?_decimalDigits bounded (decide (value < 0))
  rw [signed] at digits
  obtain ⟨front, digit, shape⟩ :
      ∃ front digit, Nat.toDigits 10 value.natAbs = front ++ [digit] :=
    ⟨_, _, (List.dropLast_concat_getLast Nat.toDigits_ne_nil).symm⟩
  rw [shape] at areDigits noPoint noExponent digits ⊢
  have plain : ∀ character ∈ front, isPlainNumeral character = true := by
    intro character member
    simp [isPlainNumeral, areDigits character (by simp [member])]
  have noMark :
      ((front ++ [digit]).contains '.' || (front ++ [digit]).contains 'e') = false := by
    simp only [Bool.or_eq_false_iff, List.contains_eq_mem, decide_eq_false_iff_not]
    exact ⟨noPoint, noExponent⟩
  rw [ofLiteral?_of_plain plain (areDigits digit (by simp)), noMark]
  exact digits

/-- A number as it is written: a sign and a plain numeral that writes it. -/
structure Number.Written
    (number : Number)
    (negative : Bool)
    (whole fraction exponent : List Char) :
    Prop where
  digits : WholeText whole
  pointed : FractionText fraction
  scaled : ExponentText exponent
  spelled : number.text.toList = signText negative ++ (whole ++ (fraction ++ exponent))
  value :
    ofLiteral? (String.ofList (whole ++ (fraction ++ exponent))) negative = some number

/-- Bounded integers are written by their digits. -/
theorem written_integer
    {value : Int}
    (bounded : value.natAbs < 2 ^ 64) :
    (Number.integer value).Written (decide (value < 0))
      (Nat.toDigits 10 value.natAbs) [] [] where
  digits := wholeText_decimalDigits value.natAbs
  pointed := .absent
  scaled := .absent
  spelled := by
    simpa using toList_text_integer value
  value := by
    simpa using ofLiteral?_decimalDigits bounded

/-- The numbers that digits write are integers below `2 ^ 64`. -/
theorem exists_integer_of_ofDigits?
    {base : Nat}
    {negative : Bool}
    {text : List Char}
    {number : Number}
    (found : Number.ofDigits? base negative text = some number) :
    ∃ value : Int, number = .integer value ∧ value.natAbs < 2 ^ 64 := by
  simp only [Number.ofDigits?] at found
  split at found
  · next bounded =>
      cases found
      refine ⟨_, rfl, ?_⟩
      simp only [Bool.and_eq_true, decide_eq_true_eq, Nat.pow_eq] at bounded
      split <;> omega
  · cases found

/-- A number that a literal writes is a bounded integer or a rendered numeral. -/
theorem Number.IsOfLiteral.cases
    {number : Number}
    (isOfLiteral : number.IsOfLiteral) :
    (∃ value : Int, number = .integer value ∧ value.natAbs < 2 ^ 64) ∨
      ∃ negative text, ofRealText? negative text = some number := by
  obtain ⟨text, negative, found⟩ := isOfLiteral
  unfold ofLiteral? ofCleanText? at found
  split at found
  · exact .inl (exists_integer_of_ofDigits? found)
  · exact .inl (exists_integer_of_ofDigits? found)
  · simp only [ofDecimalText?] at found
    split at found
    · exact .inr ⟨_, _, found⟩
    · split at found
      · exact .inr ⟨_, _, found⟩
      · exact .inl (exists_integer_of_ofDigits? found)

namespace RealNumeral

/-- A fraction is written in characters of plain numerals. -/
theorem WellFormed.isPlain_fractionText
    {numeral : RealNumeral}
    (wellFormed : numeral.WellFormed) :
    ∀ character ∈ numeral.fractionText, isPlainNumeral character = true := by
  intro character member
  cases shape : numeral.fraction with
  | none => simp [RealNumeral.fractionText, shape] at member
  | some digits =>
      obtain ⟨_, inside⟩ := areDigits_iff.mp (wellFormed.fraction digits shape)
      rw [RealNumeral.fractionText, shape] at member
      rcases List.mem_cons.mp member with rfl | inDigits
      · decide
      · simp [isPlainNumeral, inside character inDigits]

/-- The text of a normal form ends in digits behind a point or the mark of an exponent. -/
theorem exists_lastDigits
    {numeral : RealNumeral}
    (wellFormed : numeral.WellFormed) :
    ∃ front digits,
      numeral.normal.fractionText ++ numeral.normal.exponentText = front ++ digits ∧
        digits ≠ [] ∧
        (∀ digit ∈ digits, digit.isDigit = true) ∧
        (∀ character ∈ front, isPlainNumeral character = true) ∧
        ('.' ∈ front ∨ 'e' ∈ front) := by
  have normal := wellFormed.normal
  have pointed := normal.isPlain_fractionText
  cases scaled : numeral.normal.exponent with
  | some text =>
      obtain ⟨nonempty, inside⟩ := areDigits_iff.mp (normal.exponent text scaled)
      obtain ⟨sign, signed, spelled⟩ := exists_sign text
      refine ⟨numeral.normal.fractionText ++ 'e' :: sign, (Decimal.readSign text).2,
        ?_, nonempty, inside, ?_, .inr (by simp)⟩
      · conv => lhs; rw [exponentText, scaled]
        simp only [List.append_assoc, List.cons_append, ← spelled]
      · intro character member
        rcases List.mem_append.mp member with inFraction | marked
        · exact pointed character inFraction
        · rcases List.mem_cons.mp marked with rfl | inSign
          · decide
          · rcases signed with rfl | rfl | rfl
            · cases inSign
            · cases List.mem_singleton.mp inSign
              decide
            · cases List.mem_singleton.mp inSign
              decide
  | none =>
      have some_fraction : ∃ digits, numeral.normal.fraction = some digits := by
        have noExponent : numeral.exponent = none := scaled
        cases written : numeral.fraction with
        | none => exact ⟨['0'], by simp [RealNumeral.normal, written, noExponent]⟩
        | some digits => exact ⟨digits, by simp [RealNumeral.normal, written]⟩
      obtain ⟨digits, shape⟩ := some_fraction
      obtain ⟨nonempty, inside⟩ := areDigits_iff.mp (normal.fraction digits shape)
      refine ⟨['.'], digits, ?_, nonempty, inside, ?_, .inl (by simp)⟩
      · rw [fractionText, exponentText, shape, scaled]
        simp
      · intro character member
        cases List.mem_singleton.mp member
        decide

/-- The text of a normal form is a literal that writes the number of the numeral. -/
theorem ofLiteral?_normal
    {numeral : RealNumeral}
    (wellFormed : numeral.WellFormed)
    {negative : Bool}
    (finite : (numeral.toDecimal negative).isFinite = true) :
    Number.ofLiteral?
        (String.ofList (numeral.normal.whole ++
          (numeral.normal.fractionText ++ numeral.normal.exponentText)))
        negative =
      some (.real (String.ofList (numeral.render negative))) := by
  have real := ofRealText?_normal wellFormed finite
  have wholeDigits := List.all_eq_true.mp wellFormed.normal.whole
  obtain ⟨front, digits, spelled, nonempty, inside, plain, marked⟩ :=
    exists_lastDigits wellFormed
  obtain ⟨others, digit, rfl⟩ : ∃ others digit, digits = others ++ [digit] :=
    ⟨_, _, (List.dropLast_concat_getLast nonempty).symm⟩
  have shape :
      numeral.normal.whole ++ (numeral.normal.fractionText ++ numeral.normal.exponentText) =
        (numeral.normal.whole ++ (front ++ others)) ++ [digit] := by
    rw [spelled]
    simp only [List.append_assoc]
  have allPlain :
      ∀ character ∈ numeral.normal.whole ++ (front ++ others),
        isPlainNumeral character = true := by
    intro character member
    simp only [List.mem_append] at member
    rcases member with inWhole | inFront | inOthers
    · simp [isPlainNumeral, wholeDigits character inWhole]
    · exact plain character inFront
    · simp [isPlainNumeral, inside character (by simp [inOthers])]
  have isMarked :
      ((numeral.normal.whole ++ (front ++ others) ++ [digit]).contains '.' ||
        (numeral.normal.whole ++ (front ++ others) ++ [digit]).contains 'e') = true := by
    rw [Bool.or_eq_true, List.contains_iff_mem, List.contains_iff_mem]
    rcases marked with point | exponent
    · exact .inl (by simp [point])
    · exact .inr (by simp [exponent])
  rw [shape] at real ⊢
  rw [ofLiteral?_of_plain allPlain (inside digit (by simp)), if_pos isMarked, real]

end RealNumeral

/-- A real number that a text writes is rendered from a well-formed numeral with a finite value. -/
theorem exists_wellFormed_of_ofRealText?
    {negative : Bool}
    {text : List Char}
    {number : Number}
    (found : Number.ofRealText? negative text = some number) :
    ∃ numeral : RealNumeral,
      numeral.WellFormed ∧ (numeral.toDecimal negative).isFinite = true ∧
        number = .real (String.ofList (numeral.render negative)) := by
  obtain ⟨numeral, parts, written⟩ := Option.bind_eq_some_iff.mp found
  split at written
  · next finite =>
      have wellFormed : numeral.WellFormed := by
        simp only [RealNumeral.ofText?] at parts
        split at parts
        · next wellFormed =>
            cases parts
            exact RealNumeral.isWellFormed_iff.mp wellFormed
        · cases parts
      cases written
      exact ⟨numeral, wellFormed, finite, rfl⟩
  · cases written

/-- Every number that a literal writes is written by a plain numeral. -/
theorem Number.IsOfLiteral.exists_written
    {number : Number}
    (isOfLiteral : number.IsOfLiteral) :
    ∃ negative whole fraction exponent,
      number.Written negative whole fraction exponent := by
  rcases isOfLiteral.cases with ⟨value, rfl, bounded⟩ | ⟨negative, text, found⟩
  · exact ⟨_, _, _, _, written_integer bounded⟩
  · obtain ⟨numeral, wellFormed, finite, rfl⟩ := exists_wellFormed_of_ofRealText? found
    exact ⟨negative, numeral.normal.whole, numeral.normal.fractionText,
      numeral.normal.exponentText,
      { digits := RealNumeral.wholeText_leadingDigits wellFormed.whole
        pointed := wellFormed.normal.fractionText
        scaled := wellFormed.normal.exponentText
        spelled := by
          simp [Number.text, RealNumeral.render_eq]
        value := RealNumeral.ofLiteral?_normal wellFormed finite }⟩

end InitializerJson
