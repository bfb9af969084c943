import InitializerJson.Proofs.Lexical.NumeralText
import InitializerJson.Proofs.Number.LiteralImage
import InitializerJson.Proofs.Number.RationalText

namespace InitializerJson

open Character JsonText Lexical

/-!
# What numeric literals write

A literal is written in the digits of a base, with a suffix of integers, or as a
decimal text with a point, an exponent or a suffix of real numbers.  Underscores
part its digits and do not count.  Every numeral of the lexical grammar is such a
literal.
-/

/-- A literal without the underscores between its digits. -/
def withoutSeparators
    (text : List Char) :
    List Char :=
  text.filter (· != '_')

/-- What a literal writes: digits of an integer, or a real number. -/
inductive LiteralForm where
  | integer (radix : Nat) (digits : List Char)
  | real (value : ℚ)

/-- The literals with what they write. -/
inductive WritesForm : List Char → LiteralForm → Prop where
  | based
      {base : NumeralBase}
      {mark : Char}
      {digits suffix : List Char} :
      mark.toLower = base.mark →
      (∀ digit ∈ withoutSeparators digits, base.isDigit digit = true) →
      SuffixText integerSuffixes suffix →
      WritesForm ('0' :: mark :: (digits ++ suffix))
        (.integer base.radix (withoutSeparators digits))
  | decimal
      {digits suffix : List Char} :
      (∀ digit ∈ withoutSeparators digits, digit.isDigit = true) →
      SuffixText integerSuffixes suffix →
      WritesForm (digits ++ suffix) (.integer 10 (withoutSeparators digits))
  /-- A point, an exponent or a suffix marks the number as a real one. -/
  | real
      {body suffix : List Char}
      {value : ℚ} :
      WritesRational (withoutSeparators body) value →
      SuffixText (integerSuffixes ++ realSuffixes) suffix →
      '.' ∈ body ∨ 'e' ∈ body ∨ 'E' ∈ body ∨ suffix.map Char.toLower ∈ realSuffixes →
      WritesForm (body ++ suffix) (.real value)

/-! ## Separators -/

/-- What is no separator stays. -/
theorem withoutSeparators_cons
    {character : Char}
    (kept : character ≠ '_')
    (text : List Char) :
    withoutSeparators (character :: text) = character :: withoutSeparators text :=
  List.filter_cons_of_pos (by simpa using kept)

/-- Separators are taken away part by part. -/
theorem withoutSeparators_append
    (first second : List Char) :
    withoutSeparators (first ++ second) = withoutSeparators first ++ withoutSeparators second :=
  List.filter_append _ _

/-- Without their separators digits are decimal digits, one at least. -/
theorem withoutSeparators_of_digitsText
    {digits : List Char}
    (written : DigitsText digits) :
    withoutSeparators digits ≠ [] ∧
      ∀ digit ∈ withoutSeparators digits, digit.isDigit = true := by
  obtain @⟨first, others, digit, continued⟩ := written
  rw [withoutSeparators_cons (ne_of_class digit rfl)]
  refine ⟨by simp, List.forall_mem_cons.mpr ⟨digit, ?_⟩⟩
  intro character member
  obtain ⟨among, kept⟩ := List.mem_filter.mp member
  rcases Bool.or_eq_true_iff.mp (continued character among) with inside | separator
  · exact inside
  · rw [eq_of_beq separator] at kept
    cases kept

/-- Without its separators a fraction writes a part of one. -/
theorem exists_part
    {text : List Char}
    (written : PointedText text) :
    ∃ part, WritesFraction (withoutSeparators text) part := by
  cases written with
  | absent => exact ⟨0, .absent⟩
  | present digits =>
      obtain ⟨filled, inside⟩ := withoutSeparators_of_digitsText digits
      exact ⟨_, .present filled inside⟩

/-- Without its separators an exponent writes a power of ten. -/
theorem exists_power
    {text : List Char}
    (written : ScaledText text) :
    ∃ power, WritesExponent (withoutSeparators text) power := by
  cases written with
  | absent => exact ⟨0, .absent⟩
  | @present mark sign digits marked signed isDigits =>
      obtain ⟨filled, inside⟩ := withoutSeparators_of_digitsText isDigits
      have isMark : mark = 'e' ∨ mark = 'E' :=
        eq_or_eq_of_toLower 'E' marked rfl
      have kept : mark ≠ '_' := by
        rcases isMark with rfl | rfl <;> decide
      rw [withoutSeparators_cons kept, withoutSeparators_append]
      rcases signed with rfl | rfl | rfl
      · exact ⟨_, .positive isMark (.inl rfl) filled inside⟩
      · exact ⟨_, .positive isMark (.inr rfl) filled inside⟩
      · exact ⟨_, .negative isMark filled inside⟩

/-! ## Numerals -/

/-- A fraction that is not empty begins with its point. -/
theorem point_mem_of_pointedText
    {text : List Char}
    (written : PointedText text)
    (filled : text ≠ []) :
    '.' ∈ text := by
  cases written with
  | absent => exact absurd rfl filled
  | present _ => exact List.mem_cons_self

/-- An exponent that is not empty begins with its mark. -/
theorem mark_mem_of_scaledText
    {text : List Char}
    (written : ScaledText text)
    (filled : text ≠ []) :
    'e' ∈ text ∨ 'E' ∈ text := by
  cases written with
  | absent => exact absurd rfl filled
  | present marked _ _ =>
      rcases eq_or_eq_of_toLower 'E' marked rfl with rfl | rfl
      · exact .inl List.mem_cons_self
      · exact .inr List.mem_cons_self

/-- Digits with a point, an exponent or a suffix write an integer or a real number. -/
theorem exists_form_of_parts
    {whole fraction exponent suffix : List Char}
    (inside : ∀ digit ∈ withoutSeparators whole, digit.isDigit = true)
    (filled : withoutSeparators whole ≠ [] ∨ fraction ≠ [])
    (pointed : PointedText fraction)
    (scaled : ScaledText exponent)
    (suffixed : SuffixText (integerSuffixes ++ realSuffixes) suffix) :
    ∃ form, WritesForm (whole ++ (fraction ++ (exponent ++ suffix))) form := by
  by_cases isReal : fraction ≠ [] ∨ exponent ≠ [] ∨ suffix.map Char.toLower ∈ realSuffixes
  · obtain ⟨part, writesPart⟩ := exists_part pointed
    obtain ⟨power, writesPower⟩ := exists_power scaled
    have writes :
        WritesRational (withoutSeparators (whole ++ (fraction ++ exponent)))
          ((positionalValue 10 (withoutSeparators whole) + part) * 10 ^ power) := by
      rw [withoutSeparators_append, withoutSeparators_append]
      refine .intro inside (filled.imp_right fun present => ?_) writesPart writesPower
      have kept : '.' ∈ withoutSeparators fraction :=
        List.mem_filter.mpr ⟨point_mem_of_pointedText pointed present, rfl⟩
      exact List.ne_nil_of_mem kept
    have marked :
        '.' ∈ whole ++ (fraction ++ exponent) ∨ 'e' ∈ whole ++ (fraction ++ exponent) ∨
          'E' ∈ whole ++ (fraction ++ exponent) ∨ suffix.map Char.toLower ∈ realSuffixes := by
      rcases isReal with present | present | ofReal
      · exact .inl (by simp [point_mem_of_pointedText pointed present])
      · rcases mark_mem_of_scaledText scaled present with small | capital
        · exact .inr (.inl (by simp [small]))
        · exact .inr (.inr (.inl (by simp [capital])))
      · exact .inr (.inr (.inr ofReal))
    have form := WritesForm.real writes suffixed marked
    rw [List.append_assoc, List.append_assoc] at form
    exact ⟨_, form⟩
  · simp only [not_or, ne_eq, not_not] at isReal
    obtain ⟨rfl, rfl, notReal⟩ := isReal
    have integral : SuffixText integerSuffixes suffix := by
      cases suffixed with
      | absent => exact .absent
      | present member => exact .present ((List.mem_append.mp member).resolve_right notReal)
    exact ⟨_, .decimal inside integral⟩

/-- Every numeral writes an integer or a real number. -/
theorem exists_form_of_numeralText
    {text : List Char}
    (written : NumeralText text) :
    ∃ form, WritesForm text form := by
  cases written with
  | @based base mark digits suffix marked filled inBase suffixed =>
      refine ⟨_, .based marked ?_ suffixed⟩
      intro digit member
      obtain ⟨among, kept⟩ := List.mem_filter.mp member
      rcases Bool.or_eq_true_iff.mp (inBase digit among) with inside | separator
      · exact inside
      · rw [eq_of_beq separator] at kept
        cases kept
  | decimal digits pointed scaled suffixed =>
      obtain ⟨filled, inside⟩ := withoutSeparators_of_digitsText digits
      exact exists_form_of_parts inside (.inl filled) pointed scaled suffixed
  | @pointed digits exponent suffix isDigits scaled suffixed =>
      have behind : SuffixText (integerSuffixes ++ realSuffixes) suffix := by
        cases suffixed with
        | absent => exact .absent
        | present member => exact .present (List.mem_append_right _ member)
      have nothing : ∀ digit ∈ withoutSeparators [], digit.isDigit = true := by
        simp [withoutSeparators]
      exact exists_form_of_parts nothing (.inr (List.cons_ne_nil _ _)) (.present isDigits)
        scaled behind

end InitializerJson
