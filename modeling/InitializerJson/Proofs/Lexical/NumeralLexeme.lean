import InitializerJson.Proofs.Json.NumberText
import InitializerJson.Proofs.Lexical.NumeralText
import InitializerJson.Proofs.Lexical.WordLexeme
import Mathlib.Tactic.FinCases

namespace InitializerJson.Lexical

open Character JsonText

/-!
# Numerals are read back

The text of a numeral is read as that numeral where no letter, digit, underscore
or point follows.  Each part ends before the ones behind it: no fraction,
exponent or suffix begins with what could go on in the parts before.
-/

/-- The characters that may go on behind a numeral as part of it. -/
def continuesNumeral
    (character : Char) :
    Bool :=
  continuesIdentifier character || character == '.'

/-- The characters that go on behind digits, or stand for one of some marks in either case. -/
def goesOn
    (marks : List Char)
    (character : Char) :
    Bool :=
  continuesDigits character || marks.contains character.toLower

/-- What goes on in digits has no other small form. -/
theorem toLower_of_continuesDigits
    {character : Char}
    (inside : continuesDigits character = true) :
    character.toLower = character := by
  simp only [continuesDigits, Bool.or_eq_true, beq_iff_eq] at inside
  rcases inside with digit | rfl
  · exact toLower_of_isDigit digit
  · rfl

/-- Whether a character goes on depends on its small form. -/
theorem goesOn_eq_false
    {marks : List Char}
    {character small : Char}
    (lower : character.toLower = small)
    (outside : continuesDigits small = false ∧ small ∉ marks) :
    goesOn marks character = false := by
  have noDigit : continuesDigits character = false := by
    rw [← Bool.not_eq_true]
    intro inside
    rw [← toLower_of_continuesDigits inside, lower, outside.1] at inside
    cases inside
  simpa [goesOn, noDigit, lower] using outside.2

/-- Identifiers end where numerals do. -/
theorem endsRun_continuesIdentifier
    {rest : List Char}
    (ends : EndsRun continuesNumeral rest) :
    EndsRun continuesIdentifier rest :=
  endsRun_of_imp (fun character inside => by simp [continuesNumeral, inside]) ends

/-- Nothing goes on where a numeral ends. -/
theorem endsRun_goesOn
    {marks rest : List Char}
    (continued : ∀ mark ∈ marks, continuesNumeral mark = true)
    (ends : EndsRun continuesNumeral rest) :
    EndsRun (goesOn marks) rest := by
  intro character first
  have outside : continuesNumeral character = false :=
    ends character first
  have small : character.toLower = character :=
    toLower_of_not_continues (endsRun_continuesIdentifier ends character first)
  refine goesOn_eq_false small ⟨?_, ?_⟩
  · rw [← Bool.not_eq_true]
    intro inside
    simp only [continuesDigits, Bool.or_eq_true, beq_iff_eq] at inside
    rcases inside with digit | rfl
    · simp [continuesNumeral, continuesIdentifier_of_isDigit digit] at outside
    · cases outside
  · intro member
    rw [continued character member] at outside
    cases outside

/-- Fewer marks go on where more of them do not. -/
theorem endsRun_goesOn_of_subset
    {fewer more rest : List Char}
    (subset : fewer ⊆ more)
    (ends : EndsRun (goesOn more) rest) :
    EndsRun (goesOn fewer) rest := by
  refine endsRun_of_imp ?_ ends
  intro character inside
  simp only [goesOn, Bool.or_eq_true, List.contains_iff_mem] at inside ⊢
  exact inside.imp_right (subset ·)

/-! ## Suffixes -/

/-- All the type suffixes, those of decimal numerals. -/
abbrev allSuffixes : List (List Char) :=
  integerSuffixes ++ realSuffixes

/-- Suffixes consist of letters. -/
theorem continues_of_mem_suffix :
    ∀ suffix ∈ allSuffixes, ∀ sign ∈ suffix, continuesIdentifier sign = true := by
  have alike : (allSuffixes.all fun suffix => suffix.all continuesIdentifier) = true := by
    decide
  intro suffix among
  exact List.all_eq_true.mp (List.all_eq_true.mp alike suffix among)

/-- No suffix begins with one that is tried before it. -/
theorem pairwise_suffixes :
    allSuffixes.Pairwise fun before later => ¬ before <+: later := by
  decide

/-- Suffixes begin with none of the marks inside a numeral. -/
theorem first_of_suffix :
    ∀ suffix ∈ allSuffixes, ∃ sign others, suffix = sign :: others ∧
      continuesDigits sign = false ∧ sign ∉ ['x', 'b', '.', 'e'] := by
  intro suffix member
  fin_cases member <;> exact ⟨_, _, rfl, by decide⟩

/-- A text in either case is passed by its small form. -/
theorem afterAnyCase?_map_toLower
    (front rest : List Char) :
    afterAnyCase? (front.map Char.toLower) (front ++ rest) = some rest := by
  induction front with
  | nil => cases rest <;> rfl
  | cons character front hypothesis =>
      simpa [afterAnyCase?] using hypothesis

/-- A mark of letters is passed within a text behind which no identifier goes on. -/
theorem isPrefix_of_afterAnyCase?
    {mark front rest behind : List Char}
    (letters : ∀ sign ∈ mark, continuesIdentifier sign = true)
    (ends : EndsRun continuesIdentifier rest)
    (found : afterAnyCase? mark (front ++ rest) = some behind) :
    mark <+: front.map Char.toLower := by
  obtain ⟨passed, shape, rfl⟩ := exists_of_afterAnyCase? found
  rcases List.append_eq_append_iff.mp shape with ⟨more, rfl, beyond⟩ | ⟨more, rfl, _⟩
  · cases more with
    | nil => simp
    | cons next more =>
        have outside : continuesIdentifier next = false :=
          ends next (by simp [beyond])
        have letter := letters next.toLower (by simp)
        rw [toLower_of_not_continues outside, outside] at letter
        cases letter
  · simp

/-- What stands behind a type suffix is left of a text that begins with one. -/
theorem SuffixText.optionally_append
    {suffixes : List (List Char)}
    {suffix rest : List Char}
    (written : SuffixText suffixes suffix)
    (among : suffixes.Sublist allSuffixes)
    (ends : EndsRun continuesIdentifier rest) :
    optionally (afterSuffix? suffixes) (suffix ++ rest) = rest := by
  have passed :
      ∀ mark ∈ suffixes, ∀ behind, afterAnyCase? mark (suffix ++ rest) = some behind →
        mark <+: suffix.map Char.toLower := by
    intro mark member behind
    exact isPrefix_of_afterAnyCase? (continues_of_mem_suffix mark (among.subset member)) ends
  cases written with
  | absent =>
      have noSuffix : afterSuffix? suffixes rest = none := by
        apply List.findSome?_eq_none_iff.mpr
        intro mark member
        cases found : afterAnyCase? mark rest with
        | none => rfl
        | some behind =>
            obtain ⟨sign, others, rfl, _⟩ := first_of_suffix mark (among.subset member)
            exact absurd (passed _ member behind found) (by simp)
      simp [optionally, noSuffix]
  | present member =>
      obtain ⟨before, later, order⟩ := List.append_of_mem member
      have earlier : ∀ mark ∈ before, ¬ mark <+: suffix.map Char.toLower := by
        intro mark first
        have pairwise := pairwise_suffixes.sublist among
        rw [order] at pairwise
        exact (List.pairwise_append.mp pairwise).2.2 mark first _ List.mem_cons_self
      have found : afterSuffix? suffixes (suffix ++ rest) = some rest := by
        refine List.findSome?_eq_some_iff.mpr
          ⟨before, _, later, order, afterAnyCase?_map_toLower suffix rest, ?_⟩
        intro mark first
        cases found : afterAnyCase? mark (suffix ++ rest) with
        | none => rfl
        | some behind =>
            have inside : mark ∈ suffixes := by
              simp [order, first]
            exact absurd (passed mark inside behind found) (earlier mark first)
      simp [optionally, found]

/-! ## The parts of decimal numerals -/

/-- Nothing inside a numeral goes on at its suffix. -/
theorem SuffixText.endsRun_append
    {suffixes : List (List Char)}
    {suffix rest : List Char}
    (written : SuffixText suffixes suffix)
    (among : suffixes.Sublist allSuffixes)
    (ends : EndsRun continuesNumeral rest) :
    EndsRun (goesOn ['x', 'b', '.', 'e']) (suffix ++ rest) := by
  cases written with
  | absent => exact endsRun_goesOn (List.all_eq_true.mp (by decide)) ends
  | present member =>
      obtain ⟨sign, others, lower, outside⟩ := first_of_suffix _ (among.subset member)
      obtain ⟨first, more, rfl, firstLower, _⟩ := List.map_eq_cons_iff.mp lower
      exact endsRun_cons (goesOn_eq_false firstLower outside)

/-- Neither digits nor a point go on at an exponent. -/
theorem ScaledText.endsRun_append
    {exponent rest : List Char}
    (written : ScaledText exponent)
    (ends : EndsRun (goesOn ['x', 'b', '.', 'e']) rest) :
    EndsRun (goesOn ['x', 'b', '.']) (exponent ++ rest) := by
  cases written with
  | absent => exact endsRun_goesOn_of_subset (by decide) ends
  | present marked _ _ => exact endsRun_cons (goesOn_eq_false marked (by decide))

/-- No digits go on at a fraction. -/
theorem PointedText.endsRun_append
    {fraction rest : List Char}
    (written : PointedText fraction)
    (ends : EndsRun (goesOn ['x', 'b', '.']) rest) :
    EndsRun (goesOn ['x', 'b']) (fraction ++ rest) := by
  cases written with
  | absent => exact endsRun_goesOn_of_subset (by decide) ends
  | present _ => exact endsRun_cons (by decide)

/-- Digits are taken whole where they end. -/
theorem DigitsText.afterDigits?_append
    {marks digits rest : List Char}
    (written : DigitsText digits)
    (ends : EndsRun (goesOn marks) rest) :
    afterDigits? (digits ++ rest) = some rest := by
  obtain ⟨digit, others⟩ := written
  have digitsEnd : EndsRun continuesDigits rest :=
    endsRun_of_imp (fun character inside => by simp [goesOn, inside]) ends
  rw [List.cons_append, afterDigits?, if_pos digit]
  exact congrArg some (dropWhile_append_of_endsRun others digitsEnd)

/-- What stands behind a fraction is left of a text that begins with one. -/
theorem PointedText.optionally_append
    {fraction rest : List Char}
    (written : PointedText fraction)
    (ends : EndsRun (goesOn ['x', 'b', '.']) rest) :
    optionally Lexical.afterFraction? (fraction ++ rest) = rest := by
  cases written with
  | absent =>
      have noFraction : Lexical.afterFraction? rest = none := by
        unfold Lexical.afterFraction?
        split
        · exact absurd (ends '.' rfl) (by decide)
        · rfl
      simp [optionally, noFraction]
  | present digits =>
      simp [optionally, Lexical.afterFraction?, digits.afterDigits?_append ends]

/-- What stands behind an exponent is left of a text that begins with one. -/
theorem ScaledText.optionally_append
    {exponent rest : List Char}
    (written : ScaledText exponent)
    (ends : EndsRun (goesOn ['x', 'b', '.', 'e']) rest) :
    optionally Lexical.afterExponent? (exponent ++ rest) = rest := by
  cases written with
  | absent =>
      have noMark : afterAnyCase? ['e'] rest = none := by
        cases rest with
        | nil => rfl
        | cons next rest =>
            have differs : next.toLower ≠ 'e' := by
              intro mark
              have outside := ends next rfl
              simp [goesOn, mark] at outside
            simp [afterAnyCase?, differs]
      simp [optionally, Lexical.afterExponent?, noMark]
  | @present mark sign digits marked signed isDigits =>
      have read := isDigits.afterDigits?_append ends
      have behindSign : optionally afterSign? (sign ++ (digits ++ rest)) = digits ++ rest := by
        obtain @⟨first, others, digit, _⟩ := isDigits
        have single : ∀ character ∈ [first], character.isDigit = true := by
          simpa using digit
        have behind :
            optionally afterSign? (sign ++ ([first] ++ (others ++ rest))) =
              [first] ++ (others ++ rest) :=
          optionally_afterSign? signed (by simp) single
        simpa using behind
      simp [optionally, Lexical.afterExponent?, afterAnyCase?, marked] at behindSign ⊢
      simp [behindSign, read]

/-! ## Whole numerals -/

/-- Digits that a numeral does not go on behind are no numeral of another base. -/
theorem DigitsText.afterAnyCase?_append
    {mark : Char}
    {digits rest : List Char}
    (written : DigitsText digits)
    (isMark : mark ∈ ['x', 'b'])
    (ends : EndsRun (goesOn ['x', 'b']) rest) :
    afterAnyCase? ['0', mark] (digits ++ rest) = none := by
  obtain @⟨first, others, _, continued⟩ := written
  have second : ∀ next ∈ (others ++ rest).head?, next.toLower ≠ mark := by
    rintro next member rfl
    cases others with
    | nil =>
        have outside := ends next member
        simp only [goesOn, Bool.or_eq_false_iff, List.contains_eq_mem, isMark,
          decide_true, Bool.true_eq_false, and_false] at outside
    | cons other others =>
        cases member
        have inside := continued next List.mem_cons_self
        rw [toLower_of_continuesDigits inside] at isMark
        simp only [List.mem_cons, List.not_mem_nil, or_false] at isMark
        rcases isMark with rfl | rfl <;> cases inside
  rw [List.cons_append, afterAnyCase?]
  split
  · cases shape : others ++ rest with
    | nil => rfl
    | cons next behind =>
        rw [shape] at second
        simp [afterAnyCase?, second next rfl]
  · rfl

/-- What goes on behind the mark of a base may stand in an identifier. -/
theorem NumeralBase.continuesIdentifier_of_continues
    {base : NumeralBase}
    {character : Char}
    (inside : base.continues character = true) :
    continuesIdentifier character = true := by
  rcases Bool.or_eq_true_iff.mp inside with digit | underscore
  · cases base with
    | hexadecimal => exact continuesIdentifier_of_isHexDigit digit
    | binary =>
        rcases Bool.or_eq_true_iff.mp digit with zero | one
        · rw [eq_of_beq zero]
          rfl
        · rw [eq_of_beq one]
          rfl
  · rw [eq_of_beq underscore]
    rfl

/-- The digits of a base end where a suffix of integers or nothing of a numeral follows. -/
theorem NumeralBase.endsRun_continues
    {base : NumeralBase}
    {suffix rest : List Char}
    (written : SuffixText integerSuffixes suffix)
    (ends : EndsRun continuesNumeral rest) :
    EndsRun base.continues (suffix ++ rest) := by
  cases written with
  | absent =>
      refine endsRun_of_imp ?_ ends
      intro character inside
      simp [continuesNumeral, continuesIdentifier_of_continues inside]
  | present member =>
      have integral : ∀ mark ∈ integerSuffixes, ∃ sign others, mark = sign :: others ∧
          (sign = 'u' ∨ sign = 'l') := by
        simp [integerSuffixes]
      obtain ⟨sign, others, lower, small⟩ := integral _ member
      obtain ⟨first, more, rfl, firstLower, _⟩ := List.map_eq_cons_iff.mp lower
      apply endsRun_cons
      rcases small with rfl | rfl
      · rcases eq_or_eq_of_toLower 'U' firstLower rfl with rfl | rfl <;>
          cases base <;> rfl
      · rcases eq_or_eq_of_toLower 'L' firstLower rfl with rfl | rfl <;>
          cases base <;> rfl

/-- A numeral of a base is read up to where it ends. -/
theorem NumeralBase.afterNumeral?_append
    {base : NumeralBase}
    {mark : Char}
    {digits suffix rest : List Char}
    (marked : mark.toLower = base.mark)
    (filled : digits ≠ [])
    (inBase : ∀ character ∈ digits, base.continues character = true)
    (suffixed : SuffixText integerSuffixes suffix)
    (ends : EndsRun continuesNumeral rest) :
    base.afterNumeral? ('0' :: mark :: (digits ++ (suffix ++ rest))) = some rest := by
  have digitsEnd := base.endsRun_continues suffixed ends
  have run : afterSome? base.continues (digits ++ (suffix ++ rest)) = some (suffix ++ rest) := by
    obtain ⟨first, others, rfl⟩ := List.exists_cons_of_ne_nil filled
    obtain ⟨inside, othersInside⟩ := List.forall_mem_cons.mp inBase
    rw [List.cons_append, afterSome?, if_pos inside,
      dropWhile_append_of_endsRun othersInside digitsEnd]
  have zero : '0'.toLower = '0' := by
    rfl
  have behind := suffixed.optionally_append (List.sublist_append_left _ _)
    (endsRun_continuesIdentifier ends)
  simp [NumeralBase.afterNumeral?, afterAnyCase?, zero, marked, run, behind]

/-- The text of a numeral is read up to where it ends. -/
theorem NumeralText.afterNumeral?_append
    {text rest : List Char}
    (written : NumeralText text)
    (ends : EndsRun continuesNumeral rest) :
    afterNumeral? (text ++ rest) = some rest := by
  have words := endsRun_continuesIdentifier ends
  cases written with
  | @based base mark digits suffix marked filled inBase suffixed =>
      have read := base.afterNumeral?_append marked filled inBase suffixed ends
      have shape :
          '0' :: mark :: (digits ++ suffix) ++ rest =
            '0' :: mark :: (digits ++ (suffix ++ rest)) := by
        simp
      rw [shape, afterNumeral?, afterHexadecimal?_eq, afterBinary?_eq]
      cases base with
      | hexadecimal => rw [read, Option.some_or]
      | binary =>
          have noHexadecimal :
              NumeralBase.hexadecimal.afterNumeral?
                ('0' :: mark :: (digits ++ (suffix ++ rest))) = none := by
            have differs : mark.toLower ≠ 'x' := by
              rw [marked]
              decide
            simp [NumeralBase.afterNumeral?, NumeralBase.mark, afterAnyCase?, differs]
          rw [noHexadecimal, read, Option.none_or, Option.some_or]
  | @decimal whole fraction exponent suffix digits pointed scaled suffixed =>
      have behindExponent := suffixed.endsRun_append (List.Sublist.refl _) ends
      have behindFraction := scaled.endsRun_append behindExponent
      have behindWhole := pointed.endsRun_append behindFraction
      have noBase :
          ∀ mark ∈ ['x', 'b'],
            afterAnyCase? ['0', mark]
              (whole ++ (fraction ++ (exponent ++ (suffix ++ rest)))) = none :=
        fun mark isMark => digits.afterAnyCase?_append isMark behindWhole
      have decimal :
          afterDecimal? (whole ++ (fraction ++ (exponent ++ (suffix ++ rest)))) = some rest := by
        rw [afterDecimal?, digits.afterDigits?_append behindWhole, Option.map_some,
          pointed.optionally_append behindFraction, scaled.optionally_append behindExponent,
          suffixed.optionally_append (List.Sublist.refl _) words]
      simp [List.append_assoc, afterNumeral?, afterHexadecimal?, afterBinary?, noBase, decimal]
  | @pointed digits exponent suffix isDigits scaled suffixed =>
      have behindExponent := suffixed.endsRun_append (List.sublist_append_right _ _) ends
      have behindDigits := scaled.endsRun_append behindExponent
      have pointed :
          afterPointed? ('.' :: (digits ++ (exponent ++ (suffix ++ rest)))) = some rest := by
        rw [afterPointed?, Lexical.afterFraction?, isDigits.afterDigits?_append behindDigits,
          Option.map_some, scaled.optionally_append behindExponent,
          suffixed.optionally_append (List.sublist_append_right _ _) words]
      have noBase :
          ∀ mark, afterAnyCase? ['0', mark]
            ('.' :: (digits ++ (exponent ++ (suffix ++ rest)))) = none := by
        intro mark
        rfl
      have noDigits : afterDigits? ('.' :: (digits ++ (exponent ++ (suffix ++ rest)))) = none := by
        rfl
      simp [afterNumeral?, afterHexadecimal?, afterBinary?, afterDecimal?, noBase, noDigits,
        pointed]

/-- A numeral begins with a digit, or with a point before one. -/
theorem NumeralText.exists_first
    {text : List Char}
    (written : NumeralText text) :
    ∃ first others, text = first :: others ∧ (first.isDigit = true ∨ first = '.') := by
  cases written with
  | based _ _ _ _ => exact ⟨'0', _, rfl, .inl rfl⟩
  | decimal digits _ _ _ =>
      obtain ⟨digit, _⟩ := digits
      exact ⟨_, _, rfl, .inl digit⟩
  | pointed _ _ _ => exact ⟨'.', _, rfl, .inr rfl⟩

/-- The text of a numeral is read back where it ends. -/
theorem NumeralText.isLexeme
    {text rest : List Char}
    (written : NumeralText text)
    (ends : EndsRun continuesNumeral rest) :
    IsLexeme (.number (String.ofList text)) text rest := by
  have read := written.afterNumeral?_append ends
  obtain ⟨first, others, rfl, begins⟩ := written.exists_first
  have outside : ∀ mark : Char, mark.isDigit = false → mark ≠ '.' → first ≠ mark := by
    rintro mark other notPoint rfl
    rcases begins with digit | point
    · rw [digit] at other
      cases other
    · exact notPoint point
  have notBlank : isBlank first = false := by
    rcases begins with digit | rfl
    · exact isBlank_of_isDigit digit
    · decide
  have beginsNoText : BeginsNoText first (others ++ rest) :=
    ⟨outside '"' rfl (by decide), outside '$' rfl (by decide), outside '\'' rfl (by decide),
      fun marked => absurd marked (outside '@' rfl (by decide))⟩
  have lexeme : taken (first :: (others ++ rest)) rest = first :: others :=
    taken_append_left (first :: others) rest
  apply isLexeme_of_readKind? notBlank (outside '/' rfl (by decide)) (outside '#' rfl (by decide))
  rw [List.cons_append] at read ⊢
  rw [readKind?_of_beginsNoText beginsNoText, read, Option.map_some, asWritten, lexeme]
  rfl

/-- Digits without separators are digits. -/
theorem digitsText_of_isDigit
    {digits : List Char}
    (nonempty : digits ≠ [])
    (areDigits : ∀ digit ∈ digits, digit.isDigit = true) :
    DigitsText digits := by
  obtain ⟨first, others, rfl⟩ := List.exists_cons_of_ne_nil nonempty
  obtain ⟨digit, otherDigits⟩ := List.forall_mem_cons.mp areDigits
  exact .intro digit fun character member => by
    simp [continuesDigits, otherDigits character member]

/-- A fraction without separators is a fraction. -/
theorem pointedText_of_fractionText
    {fraction : List Char}
    (written : FractionText fraction) :
    PointedText fraction := by
  cases written with
  | absent => exact .absent
  | present nonempty areDigits => exact .present (digitsText_of_isDigit nonempty areDigits)

/-- An exponent without separators is an exponent. -/
theorem scaledText_of_exponentText
    {exponent : List Char}
    (written : ExponentText exponent) :
    ScaledText exponent := by
  cases written with
  | absent => exact .absent
  | present marked signed nonempty areDigits =>
      refine .present ?_ signed (digitsText_of_isDigit nonempty areDigits)
      rcases marked with rfl | rfl <;> rfl

/-- Digits without a leading zero, with a fraction and an exponent, are read back. -/
theorem isLexeme_numeral
    {whole fraction exponent rest : List Char}
    (digits : WholeText whole)
    (pointed : FractionText fraction)
    (scaled : ExponentText exponent)
    (ends : EndsRun continuesNumeral rest) :
    IsLexeme (.number (String.ofList (whole ++ (fraction ++ exponent))))
      (whole ++ (fraction ++ exponent)) rest := by
  have written : NumeralText (whole ++ (fraction ++ (exponent ++ []))) :=
    .decimal (digitsText_of_isDigit digits.ne_nil digits.isDigit)
      (pointedText_of_fractionText pointed) (scaledText_of_exponentText scaled) .absent
  rw [List.append_nil] at written
  exact written.isLexeme ends

end InitializerJson.Lexical
