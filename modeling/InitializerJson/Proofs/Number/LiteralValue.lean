import InitializerJson.Proofs.Number.LiteralForm

namespace InitializerJson

open Character JsonText Lexical

/-!
# The values of numeric literals

What a literal is read as is the exact number that it writes, negated if asked, and
nothing where that number is out of bounds: an integer where the literal writes
digits only, and otherwise a text that writes the same rational number.
-/

/--
The right answers for what a literal writes: the integer, when it has digits and fits
in 64 bits, or a text that writes the real number, when a finite double is nearest to it.
-/
def LiteralForm.Answers
    (negative : Bool)
    (answer : Option Number) :
    LiteralForm → Prop
  | integer radix digits =>
      let value := positionalValue radix digits
      answer =
        if digits ≠ [] ∧ value < 2 ^ 64 then
          some (.integer (if negative then -value else value))
        else
          none
  | real value =>
      (value < 2 ^ 1024 - 2 ^ 970 →
        ∃ text,
          answer = some (.real (String.ofList (signText negative ++ text))) ∧
            WritesRational text value) ∧
      (2 ^ 1024 - 2 ^ 970 ≤ value → answer = none)

/-! ## Cleaned texts -/

/-- Cleaning takes parts one by one. -/
theorem clean_append
    (first second : List Char) :
    Number.clean (first ++ second) = Number.clean first ++ Number.clean second := by
  simp [Number.clean]

/-- Cleaning makes letters small and takes the separators away. -/
theorem clean_eq_map
    (text : List Char) :
    Number.clean text = (withoutSeparators text).map Char.toLower := by
  rfl

/-- The small form of what is no separator stays. -/
theorem mem_clean
    {text : List Char}
    {character : Char}
    (member : character ∈ text)
    (kept : character ≠ '_') :
    character.toLower ∈ Number.clean text :=
  List.mem_map_of_mem (List.mem_filter.mpr ⟨member, by simpa using kept⟩)

/-- Digits are cleaned by taking the separators away. -/
theorem clean_of_isDigit
    {digits : List Char}
    (inside : ∀ digit ∈ withoutSeparators digits, digit.isDigit = true) :
    Number.clean digits = withoutSeparators digits :=
  RealNumeral.map_toLower_of_isDigit inside

/-- A suffix is cleaned by taking its small form. -/
theorem clean_of_mem
    {suffix : List Char}
    (member : suffix.map Char.toLower ∈ integerSuffixes ++ realSuffixes) :
    Number.clean suffix = suffix.map Char.toLower := by
  have kept : suffix.filter (· != '_') = suffix := by
    apply List.filter_eq_self.mpr
    intro character inside
    rw [bne_iff_ne]
    rintro rfl
    have small : '_' ∈ suffix.map Char.toLower :=
      List.mem_map_of_mem inside
    have letters : ∀ mark ∈ integerSuffixes ++ realSuffixes, '_' ∉ mark := by
      decide
    exact letters _ member small
  rw [Number.clean, kept]

/-! ## Integers -/

/-- An integer suffix is taken away from behind what is none. -/
theorem withoutIntegerSuffix_append
    {body suffix : List Char}
    (letters : ∀ character ∈ suffix, Number.isIntegerSuffix character = true)
    (others : ∀ character ∈ body, Number.isIntegerSuffix character = false) :
    Number.withoutIntegerSuffix (body ++ suffix) = body := by
  have ends : EndsRun Number.isIntegerSuffix body.reverse := by
    intro character last
    exact others character (List.mem_reverse.mp (List.mem_of_mem_head? last))
  have inside : ∀ character ∈ suffix.reverse, Number.isIntegerSuffix character = true :=
    fun character member => letters character (List.mem_reverse.mp member)
  rw [Number.withoutIntegerSuffix, List.reverse_append, dropWhile_append_of_endsRun inside ends,
    List.reverse_reverse]

/-- Digits of a base are read as the integer that they write. -/
theorem answers_ofDigits?
    {radix : Nat}
    {digits : List Char}
    (inside : ∀ digit ∈ digits, Number.isDigitOf radix digit = true)
    (negative : Bool) :
    (LiteralForm.integer radix digits).Answers negative
      (Number.ofDigits? radix negative digits) := by
  have noPlus : '+' ∉ digits := by
    intro member
    have digit := inside '+' member
    simp [Number.isDigitOf, isHexDigit] at digit
  have areDigits : digits.all (Number.isDigitOf radix) = true :=
    List.all_eq_true.mpr inside
  simp only [LiteralForm.Answers, Number.ofDigits?, withoutPlus_of_notMem noPlus, areDigits]
  simp

/-- The digits of a base are digits below its radix, with the same value in either case. -/
theorem isDigitOf_toLower
    {base : NumeralBase}
    {character : Char}
    (digit : base.isDigit character = true) :
    Number.isDigitOf base.radix character.toLower = true ∧
      digitValue character.toLower = digitValue character := by
  cases base with
  | hexadecimal =>
      obtain ⟨small, value⟩ := toLower_of_isHexDigit digit
      have bound := digitValue_lt small
      exact ⟨by simp [Number.isDigitOf, small, NumeralBase.radix, bound], value⟩
  | binary =>
      rcases Bool.or_eq_true_iff.mp digit with zero | one
      · rw [eq_of_beq zero]
        exact ⟨rfl, rfl⟩
      · rw [eq_of_beq one]
        exact ⟨rfl, rfl⟩

/-- Digits that are worth the same write the same number. -/
theorem positionalValue_map
    {radix : Nat}
    {digits : List Char}
    {change : Char → Char}
    (same : ∀ digit ∈ digits, digitValue (change digit) = digitValue digit) :
    positionalValue radix (digits.map change) = positionalValue radix digits := by
  unfold positionalValue
  rw [List.foldl_map]
  exact List.foldl_ext _ _ _ fun value digit member => by rw [same digit member]

/-- No digit is a letter of an integer suffix. -/
theorem isIntegerSuffix_of_isDigitOf
    {radix : Nat}
    {character : Char}
    (digit : Number.isDigitOf radix character = true) :
    Number.isIntegerSuffix character = false := by
  rw [← Bool.not_eq_true]
  intro letter
  have hexadecimal := (Bool.and_eq_true_iff.mp digit).1
  simp only [Number.isIntegerSuffix, Bool.or_eq_true, beq_iff_eq] at letter
  rcases letter with rfl | rfl <;> cases hexadecimal

/-- The suffixes of integers consist of their letters. -/
theorem isIntegerSuffix_of_mem :
    ∀ suffix ∈ integerSuffixes, ∀ character ∈ suffix,
      Number.isIntegerSuffix character = true := by
  have alike : (integerSuffixes.all fun suffix => suffix.all Number.isIntegerSuffix) = true := by
    decide
  intro suffix among
  exact List.all_eq_true.mp (List.all_eq_true.mp alike suffix among)

/-- A suffix of integers is cleaned to letters of one. -/
theorem isIntegerSuffix_of_clean
    {suffix : List Char}
    (written : SuffixText integerSuffixes suffix) :
    ∀ character ∈ Number.clean suffix, Number.isIntegerSuffix character = true := by
  cases written with
  | absent => simp [Number.clean]
  | present member =>
      rw [clean_of_mem (List.mem_append_left _ member)]
      exact isIntegerSuffix_of_mem _ member

/-- A literal with the mark of a base is read as its digits. -/
theorem answers_based
    {base : NumeralBase}
    {mark : Char}
    {digits suffix : List Char}
    (marked : mark.toLower = base.mark)
    (inside : ∀ digit ∈ withoutSeparators digits, base.isDigit digit = true)
    (suffixed : SuffixText integerSuffixes suffix)
    (negative : Bool) :
    (LiteralForm.integer base.radix (withoutSeparators digits)).Answers negative
      (Number.ofCleanText? negative (Number.clean ('0' :: mark :: (digits ++ suffix)))) := by
  have digitsInside : ∀ digit ∈ Number.clean digits,
      Number.isDigitOf base.radix digit = true := by
    intro digit member
    obtain ⟨written, among, rfl⟩ := List.mem_map.mp member
    exact (isDigitOf_toLower (inside written among)).1
  have value :
      positionalValue base.radix (Number.clean digits) =
        positionalValue base.radix (withoutSeparators digits) :=
    positionalValue_map fun digit member => (isDigitOf_toLower (inside digit member)).2
  have cleaned :
      Number.clean ('0' :: mark :: (digits ++ suffix)) =
        '0' :: base.mark :: (Number.clean digits ++ Number.clean suffix) := by
    have notSeparator : mark ≠ '_' := by
      rintro rfl
      cases base <;> cases marked
    have front : Number.clean ['0', mark] = ['0', base.mark] := by
      simp [Number.clean, notSeparator, marked]
    have parts := clean_append ['0', mark] (digits ++ suffix)
    rw [front, clean_append digits suffix] at parts
    exact parts
  have read :
      Number.ofCleanText? negative ('0' :: base.mark ::
          (Number.clean digits ++ Number.clean suffix)) =
        Number.ofDigits? base.radix negative (Number.clean digits) := by
    have body := withoutIntegerSuffix_append (isIntegerSuffix_of_clean suffixed)
      (fun character member => isIntegerSuffix_of_isDigitOf (digitsInside character member))
    cases base with
    | hexadecimal => exact congrArg (Number.ofDigits? 16 negative) body
    | binary => exact congrArg (Number.ofDigits? 2 negative) body
  have answers := answers_ofDigits? digitsInside negative
  rw [cleaned, read]
  rw [LiteralForm.Answers, value] at answers
  simpa [LiteralForm.Answers, clean_eq_map] using answers

/-! ## Decimals -/

/-- No mark of another base stands in the text. -/
theorem ofCleanText?_of_notMem
    {text : List Char}
    (noHexadecimal : 'x' ∉ text)
    (noBinary : 'b' ∉ text)
    (negative : Bool) :
    Number.ofCleanText? negative text = Number.ofDecimalText? negative text := by
  unfold Number.ofCleanText?
  split
  · simp at noHexadecimal
  · simp at noBinary
  · rfl

/-- The characters of plain numerals are no letters of other bases and suffixes. -/
theorem others_of_plain
    {character : Char}
    (plain : isPlainNumeral character = true) :
    character ≠ 'x' ∧ character ≠ 'b' ∧ Number.isIntegerSuffix character = false ∧
      Number.isRealSuffix character = false := by
  have apart (mark : Char) (other : isPlainNumeral mark = false) : character ≠ mark :=
    ne_of_class plain other
  simp [Number.isIntegerSuffix, Number.isRealSuffix, apart 'x' rfl, apart 'b' rfl, apart 'u' rfl,
    apart 'l' rfl, apart 'f' rfl, apart 'd' rfl, apart 'm' rfl]

/-- Behind a plain numeral a suffix of integers is taken away. -/
theorem ofCleanText?_integerSuffix
    {body suffix : List Char}
    (plain : ∀ character ∈ body, isPlainNumeral character = true)
    (letters : ∀ character ∈ suffix, Number.isIntegerSuffix character = true)
    (negative : Bool) :
    Number.ofCleanText? negative (body ++ suffix) =
      if body.contains '.' || body.contains 'e' then
        Number.ofRealText? negative body
      else
        Number.ofDigits? 10 negative body := by
  have outside : ∀ character ∈ body ++ suffix,
      character ≠ 'x' ∧ character ≠ 'b' ∧ Number.isRealSuffix character = false := by
    intro character member
    rcases List.mem_append.mp member with inBody | inSuffix
    · obtain ⟨notHexadecimal, notBinary, _, notReal⟩ := others_of_plain (plain character inBody)
      exact ⟨notHexadecimal, notBinary, notReal⟩
    · have letter := letters character inSuffix
      simp only [Number.isIntegerSuffix, Bool.or_eq_true, beq_iff_eq] at letter
      rcases letter with rfl | rfl
      · decide
      · decide
  have last : ¬ (body ++ suffix).getLast?.any Number.isRealSuffix = true := by
    cases found : (body ++ suffix).getLast? with
    | none => simp
    | some character => simp [(outside character (List.mem_of_getLast? found)).2.2]
  have trimmed : Number.withoutIntegerSuffix (body ++ suffix) = body :=
    withoutIntegerSuffix_append letters
      fun character member => (others_of_plain (plain character member)).2.2.1
  have decimal : Number.ofCleanText? negative (body ++ suffix) =
      Number.ofDecimalText? negative (body ++ suffix) :=
    ofCleanText?_of_notMem (fun member => (outside _ member).1 rfl)
      (fun member => (outside _ member).2.1 rfl) negative
  rw [decimal, Number.ofDecimalText?, if_neg last, trimmed]

/-- Behind a plain numeral a suffix of real numbers makes it one. -/
theorem ofCleanText?_realSuffix
    {body : List Char}
    {letter : Char}
    (plain : ∀ character ∈ body, isPlainNumeral character = true)
    (real : Number.isRealSuffix letter = true)
    (negative : Bool) :
    Number.ofCleanText? negative (body ++ [letter]) = Number.ofRealText? negative body := by
  have outside : ∀ character ∈ body ++ [letter], character ≠ 'x' ∧ character ≠ 'b' := by
    intro character member
    rcases List.mem_append.mp member with inBody | last
    · obtain ⟨notHexadecimal, notBinary, _⟩ := others_of_plain (plain character inBody)
      exact ⟨notHexadecimal, notBinary⟩
    · cases List.mem_singleton.mp last
      constructor
      · rintro rfl
        cases real
      · rintro rfl
        cases real
  have decimal : Number.ofCleanText? negative (body ++ [letter]) =
      Number.ofDecimalText? negative (body ++ [letter]) :=
    ofCleanText?_of_notMem (fun member => (outside _ member).1 rfl)
      (fun member => (outside _ member).2 rfl) negative
  rw [decimal, Number.ofDecimalText?]
  simp [real]

/-- A text that writes a number is read as that number, if it is small enough. -/
theorem answers_ofRealText?
    {text : List Char}
    {value : ℚ}
    (writes : WritesRational text value)
    (negative : Bool) :
    (LiteralForm.real value).Answers negative
      (Number.ofRealText? negative (text.map Char.toLower)) := by
  obtain ⟨numeral, wellFormed, shape, magnitude⟩ :=
    RealNumeral.exists_wellFormed_of_writesRational writes
  have finite := (numeral.toDecimal negative).isFinite_iff
  rw [magnitude negative] at finite
  rw [shape, Number.ofRealText?, RealNumeral.ofText?_of_wellFormed wellFormed, Option.bind_some]
  constructor
  · intro below
    have rendered := wellFormed.normal.writesRational negative
    rw [RealNumeral.magnitude_normal, magnitude negative] at rendered
    refine ⟨_, ?_, rendered⟩
    rw [if_pos (finite.mpr below), RealNumeral.render_eq]
  · intro above
    exact if_neg fun isFinite => absurd (finite.mp isFinite) (not_lt.mpr above)

namespace RealNumeral

/-- An exponent is written in characters of plain numerals. -/
theorem WellFormed.isPlain_exponentText
    {numeral : RealNumeral}
    (wellFormed : numeral.WellFormed) :
    ∀ character ∈ numeral.exponentText, isPlainNumeral character = true := by
  intro character member
  cases shape : numeral.exponent with
  | none => simp [RealNumeral.exponentText, shape] at member
  | some text =>
      obtain ⟨_, inside⟩ := areDigits_iff.mp (wellFormed.exponent text shape)
      obtain ⟨sign, signed, spelled⟩ := exists_sign text
      rw [RealNumeral.exponentText, shape] at member
      rcases List.mem_cons.mp member with rfl | inText
      · rfl
      rw [spelled] at inText
      rcases List.mem_append.mp inText with inSign | inDigits
      · rcases signed with rfl | rfl | rfl
        · cases inSign
        · cases List.mem_singleton.mp inSign
          rfl
        · cases List.mem_singleton.mp inSign
          rfl
      · simp [isPlainNumeral, inside character inDigits]

end RealNumeral

/-- Digits are plain. -/
theorem isPlain_of_isDigit
    {character : Char}
    (digit : character.isDigit = true) :
    isPlainNumeral character = true := by
  simp [isPlainNumeral, digit]

/-- What writes a number is a plain numeral in small letters. -/
theorem isPlain_of_writesRational
    {text : List Char}
    {value : ℚ}
    (writes : WritesRational text value) :
    ∀ character ∈ text.map Char.toLower, isPlainNumeral character = true := by
  obtain ⟨numeral, wellFormed, shape, _⟩ := RealNumeral.exists_wellFormed_of_writesRational writes
  rw [shape]
  intro character member
  rcases List.mem_append.mp member with inWhole | member
  · exact isPlain_of_isDigit (List.all_eq_true.mp wellFormed.whole character inWhole)
  rcases List.mem_append.mp member with inFraction | inExponent
  · exact wellFormed.isPlain_fractionText character inFraction
  · exact wellFormed.isPlain_exponentText character inExponent

/-- A suffix of real numbers is one letter. -/
theorem exists_letter_of_mem :
    ∀ suffix ∈ realSuffixes, ∃ letter, suffix = [letter] ∧ Number.isRealSuffix letter = true := by
  simp [realSuffixes, Number.isRealSuffix]

/-- What a literal writes is what it is read as. -/
theorem answers_ofLiteral?
    {text : String}
    {form : LiteralForm}
    (writes : WritesForm text.toList form)
    (negative : Bool) :
    form.Answers negative (Number.ofLiteral? text negative) := by
  unfold Number.ofLiteral?
  generalize text.toList = text at writes
  cases writes with
  | based marked inside suffixed => exact answers_based marked inside suffixed negative
  | @decimal digits suffix inside suffixed =>
      have plain : ∀ character ∈ withoutSeparators digits, isPlainNumeral character = true :=
        fun character member => isPlain_of_isDigit (inside character member)
      have noMark :
          ((withoutSeparators digits).contains '.' || (withoutSeparators digits).contains 'e') =
            false := by
        rw [Bool.or_eq_false_iff, ← Bool.not_eq_true, ← Bool.not_eq_true,
          List.contains_iff_mem, List.contains_iff_mem]
        exact ⟨fun point => absurd (inside '.' point) (by decide),
          fun mark => absurd (inside 'e' mark) (by decide)⟩
      rw [clean_append, clean_of_isDigit inside,
        ofCleanText?_integerSuffix plain (isIntegerSuffix_of_clean suffixed), noMark]
      exact answers_ofDigits? (fun digit member => isDigitOf_of_isDigit (inside digit member))
        negative
  | @real body suffix value written suffixed marked =>
      have plain : ∀ character ∈ Number.clean body, isPlainNumeral character = true :=
        isPlain_of_writesRational written
      have answers := answers_ofRealText? written negative
      rw [← clean_eq_map] at answers
      rw [clean_append]
      by_cases ofReals : suffix.map Char.toLower ∈ realSuffixes
      · obtain ⟨letter, shape, isReal⟩ := exists_letter_of_mem _ ofReals
        rw [clean_of_mem (List.mem_append_right _ ofReals), shape,
          ofCleanText?_realSuffix plain isReal]
        exact answers
      · have integral : SuffixText integerSuffixes suffix := by
          cases suffixed with
          | absent => exact .absent
          | present member =>
              exact .present ((List.mem_append.mp member).resolve_right ofReals)
        have isMarked :
            ((Number.clean body).contains '.' || (Number.clean body).contains 'e') = true := by
          rw [Bool.or_eq_true, List.contains_iff_mem, List.contains_iff_mem]
          rcases marked with point | small | capital | ofReal
          · exact .inl (mem_clean point (by decide))
          · exact .inr (mem_clean small (by decide))
          · exact .inr (mem_clean capital (by decide))
          · exact absurd ofReal ofReals
        rw [ofCleanText?_integerSuffix plain (isIntegerSuffix_of_clean integral), if_pos isMarked]
        exact answers

/--
A text that is a numeral as a whole writes an integer or a real number, and is read as
exactly that number.
-/
theorem ofLiteral?_of_numeral
    {text : String}
    (numeral : afterNumeral? text.toList = some [])
    (negative : Bool) :
    (∃ form, WritesForm text.toList form) ∧
      ∀ form, WritesForm text.toList form →
        form.Answers negative (Number.ofLiteral? text negative) := by
  obtain ⟨whole, shape, written⟩ := exists_numeralText numeral
  rw [List.append_nil] at shape
  refine ⟨?_, fun form writes => answers_ofLiteral? writes negative⟩
  rw [shape]
  exact exists_form_of_numeralText written

/-- A literal with separators, an exponent and a suffix is read as the number it writes. -/
theorem ofLiteral?_of_numeral_separated :
    afterNumeral? "1_2.50E+0_3f".toList = some [] ∧
      ((∃ form, WritesForm "1_2.50E+0_3f".toList form) ∧
        ∀ form, WritesForm "1_2.50E+0_3f".toList form →
          form.Answers true (Number.ofLiteral? "1_2.50E+0_3f" true)) := by
  have numeral : afterNumeral? "1_2.50E+0_3f".toList = some [] := by
    decide
  exact ⟨numeral, ofLiteral?_of_numeral numeral true⟩

end InitializerJson
