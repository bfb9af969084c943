import InitializerJson.Proofs.Number.CleanedParts

namespace InitializerJson

open Character JsonText Lexical

/-!
# Tidy literals

Reading a literal takes its separators away wherever they stand, passes a plus sign in
front of the digits of an integer, and does not ask in which order, how often or behind
what the letters of an integer suffix stand.  The lexical grammar asks all of that.  The
tidy literals are those that make no use of it, and among the texts that are read as
numbers they are exactly the numerals of the grammar.
-/

/-- Whether a text begins with the mark of a base. -/
def namesBase : List Char → Bool
  | '0' :: 'x' :: _ => true
  | '0' :: 'b' :: _ => true
  | _ => false

/-- The literals that make no use of how lenient reading is. -/
structure IsTidy
    (text : List Char) :
    Prop where
  /-- Separators follow digits, or the mark of a base. -/
  separated : EachBehind '_' (admitsSeparator (namesBase (text.map Char.toLower))) text
  /-- No separator parts the mark of a base from its zero. -/
  based : namesBase (Number.clean text) = true → namesBase (text.map Char.toLower) = true
  /-- A plus sign is one of an exponent. -/
  unsigned : EachBehind '+' (· == 'e') (Number.clean text)
  /-- No letter of an integer suffix is repeated. -/
  suffixed : (Number.clean text).count 'u' ≤ 1 ∧ (Number.clean text).count 'l' ≤ 1
  /-- What begins with a point has no integer suffix. -/
  integral : (Number.clean text).head? = some '.' →
    'u' ∉ Number.clean text ∧ 'l' ∉ Number.clean text

/-! ## Bases -/

/-- A text that names a base begins with a zero and the mark of one. -/
theorem exists_mark_of_namesBase
    {text : List Char}
    (named : namesBase text = true) :
    ∃ (base : NumeralBase) (rest : List Char), text = '0' :: base.mark :: rest := by
  unfold namesBase at named
  split at named
  · exact ⟨.hexadecimal, _, rfl⟩
  · exact ⟨.binary, _, rfl⟩
  · cases named

/-- The mark of a base behind a zero names it. -/
theorem namesBase_mark
    (base : NumeralBase)
    (rest : List Char) :
    namesBase ('0' :: base.mark :: rest) = true := by
  cases base <;> rfl

/-! ## Tidy literals are numerals -/

/-- No cleaned decimal literal has the mark of a base. -/
theorem mark_notMem_of_decimal
    {numeral : RealNumeral}
    {letters : List Char}
    (wellFormed : numeral.WellFormed)
    (suffixed : CleanSuffix letters)
    (base : NumeralBase) :
    base.mark ∉
      numeral.whole ++ (numeral.fractionText ++ (numeral.exponentText ++ letters)) := by
  have notPlain : isPlainNumeral base.mark = false := by
    cases base <;> rfl
  have apart {part : List Char}
      (plain : ∀ character ∈ part, isPlainNumeral character = true) :
      base.mark ∉ part :=
    fun member => ne_of_class (plain _ member) notPlain rfl
  have noLetter : base.mark ∉ letters := by
    intro member
    cases suffixed with
    | integer areLetters =>
        have isLetter := areLetters _ member
        cases base <;> cases isLetter
    | real isReal =>
        rw [← List.mem_singleton.mp member] at isReal
        cases base <;> cases isReal
  simp only [List.mem_append, not_or]
  refine ⟨apart fun character member => ?_, apart wellFormed.isPlain_fractionText,
    apart wellFormed.isPlain_exponentText, noLetter⟩
  exact isPlain_of_isDigit (List.all_eq_true.mp wellFormed.whole character member)

/-- What is cleaned to a decimal literal names no base. -/
theorem namesBase_of_decimal
    {text letters : List Char}
    {numeral : RealNumeral}
    (wellFormed : numeral.WellFormed)
    (suffixed : CleanSuffix letters)
    (cleaned : Number.clean text =
      numeral.whole ++ (numeral.fractionText ++ (numeral.exponentText ++ letters))) :
    namesBase (text.map Char.toLower) = false := by
  rw [← Bool.not_eq_true]
  intro named
  obtain ⟨base, rest, lower⟩ := exists_mark_of_namesBase named
  have member : base.mark ∈ text.map Char.toLower := by
    simp [lower]
  obtain ⟨mark, among, isMark⟩ := List.mem_map.mp member
  apply mark_notMem_of_decimal wellFormed suffixed base
  rw [← cleaned, ← isMark]
  refine mem_clean among ?_
  rintro rfl
  cases base <;> cases isMark

/-- Where a text names a base and is cleaned to digits behind a mark, the mark stands in it. -/
theorem exists_mark_of_based
    {base : NumeralBase}
    {front behind digits : List Char}
    (named : namesBase ((front ++ behind).map Char.toLower) = true)
    (cleaned : Number.clean front = '0' :: base.mark :: digits)
    (filled : digits ≠ []) :
    ∃ mark written,
      front = '0' :: mark :: written ∧
        mark.toLower = base.mark ∧ Number.clean written = digits := by
  obtain ⟨other, rest, lower⟩ := exists_mark_of_namesBase named
  -- More than the zero and the mark stands in front, so that both are read off there.
  have long : 2 < front.length := by
    have counted := List.length_filter_le (· != '_') front
    have size := congrArg List.length cleaned
    have some := List.length_pos_iff.mpr filled
    simp only [Number.clean, List.length_map, List.length_cons] at size
    omega
  obtain ⟨zero, mark, written, rfl⟩ : ∃ zero mark written, front = zero :: mark :: written := by
    rcases front with _ | ⟨zero, _ | ⟨mark, written⟩⟩
    · cases long
    · simp at long
    · exact ⟨zero, mark, written, rfl⟩
  simp only [List.cons_append, List.map_cons, List.cons.injEq] at lower
  obtain ⟨isZero, isMark, _⟩ := lower
  obtain rfl := eq_of_toLower rfl isZero
  have kept : mark ≠ '_' := by
    rintro rfl
    cases other <;> cases isMark
  rw [clean_cons (by decide), clean_cons kept] at cleaned
  simp only [List.cons.injEq] at cleaned
  exact ⟨mark, written, rfl, cleaned.2⟩

/-- A tidy literal that is cleaned to digits of a base is a numeral of that base. -/
theorem numeralText_of_based
    {base : NumeralBase}
    {text digits letters : List Char}
    (tidy : IsTidy text)
    (cleaned : Number.clean text = '0' :: base.mark :: (digits ++ letters))
    (filled : digits ≠ [])
    (areDigits : ∀ digit ∈ digits, Number.isDigitOf base.radix digit = true)
    (areLetters : ∀ letter ∈ letters, Number.isIntegerSuffix letter = true) :
    NumeralText text := by
  have named : namesBase (text.map Char.toLower) = true :=
    tidy.based (by rw [cleaned]; exact namesBase_mark base _)
  have shape : Number.clean text = ('0' :: base.mark :: digits) ++ letters := cleaned
  obtain ⟨front, behind, rfl, ⟨_, isFront⟩, isSeparated, rfl⟩ := exists_parts tidy.separated shape
  obtain ⟨mark, written, rfl, marked, rfl⟩ := exists_mark_of_based named isFront filled
  have inBase : ∀ character ∈ written, base.continues character = true := by
    intro character member
    rcases eq_or_mem_clean member with rfl | digit
    · simp [NumeralBase.continues]
    · simp [NumeralBase.continues, NumeralBase.isDigit_of_isDigitOf (areDigits _ digit)]
  have once :
      (Number.clean behind).count 'u' ≤ 1 ∧ (Number.clean behind).count 'l' ≤ 1 := by
    have few := tidy.suffixed
    rw [clean_append, List.count_append, List.count_append] at few
    omega
  have nonempty : written ≠ [] := by
    rintro rfl
    exact filled rfl
  exact .based marked nonempty inBase
    (suffixText_of_isIntegerSuffix isSeparated areLetters once)

/-- A tidy literal that is cleaned to a decimal one is a decimal numeral. -/
theorem numeralText_of_decimal
    {text letters : List Char}
    {numeral : RealNumeral}
    (tidy : IsTidy text)
    (wellFormed : numeral.WellFormed)
    (suffixed : CleanSuffix letters)
    (cleaned : Number.clean text =
      numeral.whole ++ (numeral.fractionText ++ (numeral.exponentText ++ letters))) :
    NumeralText text := by
  have unnamed := namesBase_of_decimal wellFormed suffixed cleaned
  have separated := tidy.separated
  rw [unnamed] at separated
  obtain ⟨whole, _, rfl, ⟨wholeSeparated, isWhole⟩, restSeparated, restCleaned⟩ :=
    exists_parts separated cleaned
  obtain ⟨fraction, _, rfl, ⟨fractionSeparated, isFraction⟩, tailSeparated, tailCleaned⟩ :=
    exists_parts restSeparated restCleaned
  obtain ⟨exponent, suffix, rfl, ⟨exponentSeparated, isExponent⟩, suffixSeparated, rfl⟩ :=
    exists_parts tailSeparated tailCleaned
  have pointed := pointedText_of_clean fractionSeparated wellFormed.fraction
    (isFraction.trans numeral.fractionText_eq)
  have scaled := scaledText_of_clean exponentSeparated wellFormed.exponent
    (isExponent.trans numeral.exponentText_eq)
  have once :
      (Number.clean suffix).count 'u' ≤ 1 ∧ (Number.clean suffix).count 'l' ≤ 1 := by
    have few := tidy.suffixed
    simp only [clean_append, List.count_append] at few
    omega
  obtain ⟨anySuffix, realSuffix⟩ := suffixText_of_clean suffixSeparated suffixed once
  by_cases filled : numeral.whole = []
  · rw [filled] at isWhole
    obtain rfl := eq_nil_of_clean wholeSeparated isWhole
    -- Without whole digits there is a point, and so no suffix of integers.
    cases pointed with
    | absent =>
        have present := wellFormed.some.resolve_left (absurd filled)
        obtain ⟨digits, shape⟩ := Option.isSome_iff_exists.mp present
        rw [numeral.fractionText_eq, shape] at isFraction
        cases isFraction
    | @present digits isDigits =>
        refine .pointed isDigits scaled (realSuffix ?_)
        have integral := tidy.integral (by simp [clean_cons])
        simp only [clean_append, List.mem_append, not_or] at integral
        exact ⟨integral.1.2.2.2, integral.2.2.2.2⟩
  · rw [← isWhole] at filled
    have digits := digitsText_of_clean wholeSeparated filled
      (isWhole ▸ List.all_eq_true.mp wellFormed.whole)
    exact .decimal digits pointed scaled anySuffix

/-- A tidy literal that is read as a number is a numeral. -/
theorem IsTidy.numeralText
    {text : List Char}
    (tidy : IsTidy text)
    (literal : CleanLiteral (Number.clean text)) :
    NumeralText text := by
  have unsigned := tidy.unsigned
  generalize cleaned : Number.clean text = written at literal unsigned
  cases literal with
  | @based base plus digits letters signed filled areDigits areLetters =>
      rcases signed with rfl | rfl
      · rw [List.nil_append] at cleaned
        exact numeralText_of_based tidy cleaned filled areDigits areLetters
      · have behindMark := (List.isChain_cons_cons.mp
          (List.isChain_cons_cons.mp unsigned.behind).2).1 rfl
        cases base <;> cases behindMark
  | @decimal plus letters numeral signed wellFormed suffixed =>
      rcases signed with rfl | rfl
      · rw [List.nil_append] at cleaned
        exact numeralText_of_decimal tidy wellFormed suffixed cleaned
      · exact absurd rfl unsigned.front

/-! ## Numerals are tidy literals -/

/-- A part of a numeral: it is plain once cleaned, and no mark in it stands amiss. -/
structure IsTidyPart
    (text : List Char) :
    Prop where
  separated : EachBehind '_' continuesDigits text
  unsigned : EachBehind '+' (· == 'e') (Number.clean text)
  plain : ∀ character ∈ Number.clean text, isPlainNumeral character = true

namespace IsTidyPart

/-- An absent part is one. -/
theorem nil :
    IsTidyPart [] :=
  ⟨.of_notMem (by decide), .of_notMem (by decide), List.all_eq_true.mp rfl⟩

/-- Parts of numerals one behind the other are such a part. -/
theorem append
    {first second : List Char}
    (tidyFirst : IsTidyPart first)
    (tidySecond : IsTidyPart second) :
    IsTidyPart (first ++ second) where
  separated := tidyFirst.separated.append tidySecond.separated
  unsigned := by
    rw [clean_append]
    exact tidyFirst.unsigned.append tidySecond.unsigned
  plain := by
    rw [clean_append]
    exact List.forall_mem_append.mpr ⟨tidyFirst.plain, tidySecond.plain⟩

/-- Digits are a part of a numeral. -/
theorem of_digitsText
    {text : List Char}
    (written : DigitsText text) :
    IsTidyPart text := by
  have inside := (withoutSeparators_of_digitsText written).2
  have cleaned := clean_of_isDigit inside
  refine ⟨?_, ?_, ?_⟩
  · obtain ⟨digit, others⟩ := written
    apply EachBehind.of_forall
    · simpa using ne_of_class digit rfl
    · exact List.forall_mem_cons.mpr ⟨by simp [continuesDigits, digit], others⟩
  · rw [cleaned]
    exact .of_notMem fun member => absurd (inside '+' member) (by decide)
  · rw [cleaned]
    exact fun character member => isPlain_of_isDigit (inside character member)

/-- A fraction is a part of a numeral. -/
theorem of_pointedText
    {text : List Char}
    (written : PointedText text) :
    IsTidyPart text := by
  cases written with
  | absent => exact nil
  | present digits =>
      have point : IsTidyPart ['.'] :=
        ⟨.of_notMem (by decide), .of_notMem (by decide), List.all_eq_true.mp rfl⟩
      exact point.append (of_digitsText digits)

/-- An exponent is a part of a numeral, and its plus sign follows its mark. -/
theorem of_scaledText
    {text : List Char}
    (written : ScaledText text) :
    IsTidyPart text := by
  cases written with
  | absent => exact nil
  | @present mark sign digits marked signed isDigits =>
      have kept : mark ≠ '_' := by
        rintro rfl
        cases marked
      have front : IsTidyPart (mark :: sign) := by
        have cleaned : Number.clean (mark :: sign) = 'e' :: Number.clean sign := by
          rw [clean_cons kept, marked]
        constructor
        · refine .of_notMem ?_
          rcases signed with rfl | rfl | rfl <;> simpa using kept.symm
        · rw [cleaned]
          rcases signed with rfl | rfl | rfl
          · exact .of_notMem (by decide)
          · exact ⟨by decide, by decide⟩
          · exact .of_notMem (by decide)
        · rw [cleaned]
          rcases signed with rfl | rfl | rfl <;> exact List.all_eq_true.mp rfl
      exact front.append (of_digitsText isDigits)

end IsTidyPart

/-- Cleaned, a suffix is one in small letters, or nothing. -/
theorem clean_suffixText
    {suffixes : List (List Char)}
    {suffix : List Char}
    (among : suffixes ⊆ integerSuffixes ++ realSuffixes)
    (written : SuffixText suffixes suffix) :
    Number.clean suffix ∈ [] :: suffixes := by
  cases written with
  | absent => exact List.mem_cons_self
  | present member =>
      rw [clean_of_mem (among member)]
      exact List.mem_cons_of_mem _ member

/-- No separator stands in a suffix. -/
theorem separator_notMem_suffixText
    {suffix : List Char}
    (written : SuffixText (integerSuffixes ++ realSuffixes) suffix) :
    '_' ∉ suffix := by
  cases written with
  | absent => exact List.not_mem_nil
  | present member =>
      intro present
      have letters : ∀ mark ∈ integerSuffixes ++ realSuffixes, '_' ∉ mark := by
        decide
      exact letters _ member (List.mem_map_of_mem present)

/-- The letters of suffixes: none is a sign or the mark of a base, and none stands twice. -/
theorem letters_of_suffixes :
    ∀ letters ∈ [] :: (integerSuffixes ++ realSuffixes),
      '+' ∉ letters ∧ 'x' ∉ letters ∧ 'b' ∉ letters ∧
        letters.count 'u' ≤ 1 ∧ letters.count 'l' ≤ 1 := by
  decide

/-- The suffixes of real numbers have no letters of integer suffixes. -/
theorem letters_of_realSuffixes :
    ∀ letters ∈ [] :: realSuffixes, 'u' ∉ letters ∧ 'l' ∉ letters := by
  decide

/-- A numeral without a base is tidy. -/
theorem isTidy_of_parts
    {body suffix : List Char}
    (tidy : IsTidyPart body)
    (filled : body ≠ [])
    (suffixed : SuffixText (integerSuffixes ++ realSuffixes) suffix)
    (integral : body.head? = some '.' → SuffixText realSuffixes suffix) :
    IsTidy (body ++ suffix) := by
  have letters := letters_of_suffixes _ (clean_suffixText (List.Subset.refl _) suffixed)
  have notPlain {mark : Char} (other : isPlainNumeral mark = false) :
      mark ∉ Number.clean body := by
    intro member
    rw [tidy.plain mark member] at other
    cases other
  constructor
  · refine (tidy.separated.mono fun character continued => ?_).append
      (.of_notMem (separator_notMem_suffixText suffixed))
    simp [admitsSeparator, continued]
  · intro named
    obtain ⟨base, rest, shape⟩ := exists_mark_of_namesBase named
    have member : base.mark ∈ Number.clean (body ++ suffix) := by
      simp [shape]
    rw [clean_append, List.mem_append] at member
    cases base with
    | hexadecimal => exact absurd member (not_or.mpr ⟨notPlain rfl, letters.2.1⟩)
    | binary => exact absurd member (not_or.mpr ⟨notPlain rfl, letters.2.2.1⟩)
  · rw [clean_append]
    exact tidy.unsigned.append (.of_notMem letters.1)
  · rw [clean_append, List.count_append, List.count_append,
      List.count_eq_zero_of_not_mem (notPlain rfl), List.count_eq_zero_of_not_mem (notPlain rfl),
      Nat.zero_add, Nat.zero_add]
    exact letters.2.2.2
  · intro point
    have begins : body.head? = some '.' := by
      obtain ⟨first, rest, rfl⟩ := List.exists_cons_of_ne_nil filled
      have kept : first ≠ '_' := by
        rintro rfl
        exact tidy.separated.front rfl
      rw [clean_append, clean_cons kept] at point
      have lower : first.toLower = '.' := Option.some.inj point
      rw [eq_of_toLower rfl lower]
      rfl
    have others := letters_of_realSuffixes _
      (clean_suffixText (List.subset_append_right _ _) (integral begins))
    rw [clean_append, List.mem_append, List.mem_append]
    exact ⟨not_or.mpr ⟨notPlain rfl, others.1⟩, not_or.mpr ⟨notPlain rfl, others.2⟩⟩

/-- The mark of a base and what goes on with its digits admit separators. -/
theorem separated_of_based
    {base : NumeralBase}
    {mark : Char}
    {digits : List Char}
    (marked : mark.toLower = base.mark)
    (inBase : ∀ character ∈ digits, base.continues character = true) :
    EachBehind '_' (admitsSeparator true) ('0' :: mark :: digits) := by
  apply EachBehind.of_forall (by simp)
  refine List.forall_mem_cons.mpr ⟨rfl, List.forall_mem_cons.mpr ⟨?_, ?_⟩⟩
  · cases base with
    | hexadecimal =>
        have isMark : mark.toLower = 'x' := marked
        simp [admitsSeparator, isMark]
    | binary => rcases eq_or_eq_of_toLower 'B' marked rfl with rfl | rfl <;> decide
  · intro character member
    rcases Bool.or_eq_true_iff.mp (inBase character member) with digit | separator
    · simp [admitsSeparator, isHexDigit_of_isDigit_base digit]
    · rw [eq_of_beq separator]
      rfl

/-- Cleaned, what goes on with the digits of a base are hexadecimal digits only. -/
theorem isHexDigit_of_mem_clean
    {base : NumeralBase}
    {digits : List Char}
    (inBase : ∀ character ∈ digits, base.continues character = true)
    {character : Char}
    (member : character ∈ Number.clean digits) :
    isHexDigit character = true := by
  obtain ⟨written, among, rfl⟩ := List.mem_map.mp member
  obtain ⟨inDigits, noSeparator⟩ := List.mem_filter.mp among
  rcases Bool.or_eq_true_iff.mp (inBase written inDigits) with digit | separator
  · exact (toLower_of_isHexDigit (isHexDigit_of_isDigit_base digit)).1
  · rw [eq_of_beq separator] at noSeparator
    cases noSeparator

/-- A numeral with a base is tidy. -/
theorem isTidy_of_based
    {base : NumeralBase}
    {mark : Char}
    {digits suffix : List Char}
    (marked : mark.toLower = base.mark)
    (inBase : ∀ character ∈ digits, base.continues character = true)
    (suffixed : SuffixText integerSuffixes suffix) :
    IsTidy ('0' :: mark :: (digits ++ suffix)) := by
  have anySuffix := suffixText_of_subset (List.subset_append_left _ realSuffixes) suffixed
  have letters := letters_of_suffixes _ (clean_suffixText (List.Subset.refl _) anySuffix)
  have named : namesBase (('0' :: mark :: (digits ++ suffix)).map Char.toLower) = true := by
    rw [List.map_cons, List.map_cons, marked]
    exact namesBase_mark base _
  have kept : mark ≠ '_' := by
    rintro rfl
    cases base <;> cases marked
  have cleaned :
      Number.clean ('0' :: mark :: (digits ++ suffix)) =
        '0' :: base.mark :: (Number.clean digits ++ Number.clean suffix) := by
    rw [clean_cons (by decide), clean_cons kept, clean_append, marked]
    rfl
  have noDigit {letter : Char} (other : isHexDigit letter = false) :
      letter ∉ Number.clean digits := by
    intro member
    rw [isHexDigit_of_mem_clean inBase member] at other
    cases other
  constructor
  · rw [named]
    exact (separated_of_based marked inBase).append
      (.of_notMem (separator_notMem_suffixText anySuffix))
  · exact fun _ => named
  · rw [cleaned]
    refine .of_notMem ?_
    simp only [List.mem_cons, List.mem_append, not_or]
    refine ⟨by decide, ?_, noDigit rfl, letters.1⟩
    cases base <;> decide
  · rw [cleaned]
    have few := letters.2.2.2
    have noUnsigned : (Number.clean digits).count 'u' = 0 :=
      List.count_eq_zero_of_not_mem (noDigit rfl)
    have noLong : (Number.clean digits).count 'l' = 0 :=
      List.count_eq_zero_of_not_mem (noDigit rfl)
    cases base <;> simpa [NumeralBase.mark, noUnsigned, noLong] using few
  · intro point
    rw [cleaned] at point
    cases point

/-- Every numeral is a tidy literal. -/
theorem isTidy_of_numeralText
    {text : List Char}
    (written : NumeralText text) :
    IsTidy text := by
  cases written with
  | based marked _ inBase suffixed => exact isTidy_of_based marked inBase suffixed
  | @decimal whole fraction exponent suffix digits pointed scaled suffixed =>
      have tidy := (IsTidyPart.of_digitsText digits).append
        ((IsTidyPart.of_pointedText pointed).append (IsTidyPart.of_scaledText scaled))
      have begins : (whole ++ (fraction ++ exponent)).head? ≠ some '.' := by
        obtain ⟨digit, _⟩ := digits
        simpa using ne_of_class digit rfl
      have filled : whole ++ (fraction ++ exponent) ≠ [] := by
        obtain ⟨_, _⟩ := digits
        exact List.cons_ne_nil _ _
      have whole := isTidy_of_parts tidy filled suffixed fun point => absurd point begins
      rwa [List.append_assoc, List.append_assoc] at whole
  | @pointed digits exponent suffix isDigits scaled suffixed =>
      have tidy := (IsTidyPart.of_pointedText (.present isDigits)).append
        (IsTidyPart.of_scaledText scaled)
      have anySuffix := suffixText_of_subset (List.subset_append_right integerSuffixes _) suffixed
      have whole := isTidy_of_parts tidy (List.cons_ne_nil _ _) anySuffix fun _ => suffixed
      rwa [List.append_assoc] at whole

/--
Of a text that is read as a number the lexer takes the whole as one numeral exactly where
the text is tidy.
-/
theorem afterNumeral?_eq_nil_iff_isTidy
    {text : String}
    {negative : Bool}
    {number : Number}
    (found : Number.ofLiteral? text negative = some number) :
    afterNumeral? text.toList = some [] ↔ IsTidy text.toList := by
  constructor
  · intro whole
    obtain ⟨numeral, shape, written⟩ := exists_numeralText whole
    rw [List.append_nil] at shape
    rw [shape]
    exact isTidy_of_numeralText written
  · intro tidy
    have written := tidy.numeralText (cleanLiteral_of_ofLiteral? found)
    have ends : EndsRun continuesNumeral [] := by
      rintro _ ⟨⟩
    simpa using written.afterNumeral?_append ends

/-- A hexadecimal literal with separators and a suffix is told to be tidy by being a numeral. -/
theorem afterNumeral?_eq_nil_iff_isTidy_hexadecimal :
    Number.ofLiteral? "0x_1_FuL" true = some (.integer (-31)) ∧
      (afterNumeral? "0x_1_FuL".toList = some [] ↔ IsTidy "0x_1_FuL".toList) := by
  have found : Number.ofLiteral? "0x_1_FuL" true = some (.integer (-31)) := by
    decide
  exact ⟨found, afterNumeral?_eq_nil_iff_isTidy found⟩

/-- Texts that are read as numbers without being numerals, one for each way to be untidy. -/
theorem ofLiteral?_of_untidy :
    (Number.ofLiteral? "1._5" false = some (.real "1.5") ∧
        afterNumeral? "1._5".toList = some "._5".toList) ∧
      (Number.ofLiteral? "0_x1F" false = some (.integer 31) ∧
        afterNumeral? "0_x1F".toList = some "x1F".toList) ∧
      (Number.ofLiteral? "+5" false = some (.integer 5) ∧
        afterNumeral? "+5".toList = none) ∧
      (Number.ofLiteral? "1uu" false = some (.integer 1) ∧
        afterNumeral? "1uu".toList = some "u".toList) ∧
      (Number.ofLiteral? ".5u" false = some (.real "0.5") ∧
        afterNumeral? ".5u".toList = some "u".toList) := by
  decide +kernel

end InitializerJson
