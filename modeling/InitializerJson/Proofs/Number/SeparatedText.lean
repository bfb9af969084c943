import InitializerJson.Proofs.Lexical.NumeralLexeme
import InitializerJson.Proofs.Number.LiteralValue
import Mathlib.Data.List.Chain

namespace InitializerJson

open Character JsonText Lexical

/-!
# Separators in literals

Where marks may stand in a text is told by what stands before them.  A literal whose
separators stand behind characters that admit them can be taken apart as it can once it
is cleaned, and parts of it that admit none hold none.
-/

/-- A mark stands neither in front nor behind a character that does not admit it. -/
structure EachBehind
    (mark : Char)
    (admits : Char → Bool)
    (text : List Char) :
    Prop where
  front : text.head? ≠ some mark
  behind : text.IsChain fun before after => after = mark → admits before = true

/-- The characters that a separator may follow, in a literal with a base and without one. -/
def admitsSeparator
    (based : Bool)
    (character : Char) :
    Bool :=
  continuesDigits character || (based && (isHexDigit character || character.toLower == 'x'))

/-! ## Where marks stand -/

namespace EachBehind

variable {mark : Char} {admits : Char → Bool} {first second text : List Char}

/-- Where there is no mark, none stands amiss. -/
theorem of_notMem
    (absent : mark ∉ text) :
    EachBehind mark admits text where
  front head := absent (List.mem_of_mem_head? head)
  behind := by
    induction text with
    | nil => exact .nil
    | cons first rest inductionHypothesis =>
        have absentBehind := (not_or.mp (mt List.mem_cons.mpr absent)).2
        refine List.isChain_cons.mpr ⟨?_, inductionHypothesis absentBehind⟩
        rintro next head rfl
        exact absurd (List.mem_of_mem_head? head) absentBehind

/-- Where every character admits the mark, it stands amiss only in front. -/
theorem of_forall
    (front : text.head? ≠ some mark)
    (admitted : ∀ character ∈ text, admits character = true) :
    EachBehind mark admits text where
  front := front
  behind := by
    clear front
    induction text with
    | nil => exact .nil
    | cons first rest inductionHypothesis =>
        obtain ⟨admitsFirst, admitsRest⟩ := List.forall_mem_cons.mp admitted
        exact List.isChain_cons.mpr ⟨fun _ _ _ => admitsFirst, inductionHypothesis admitsRest⟩

/-- Texts in which no mark stands amiss make up such a text. -/
theorem append
    (inFirst : EachBehind mark admits first)
    (inSecond : EachBehind mark admits second) :
    EachBehind mark admits (first ++ second) where
  front := by
    cases first with
    | nil => exact inSecond.front
    | cons next rest => exact inFirst.front
  behind := by
    refine List.isChain_append.mpr ⟨inFirst.behind, inSecond.behind, ?_⟩
    rintro last _ next head rfl
    exact absurd head inSecond.front

/-- The mark may stand where more characters admit it. -/
theorem mono
    {more : Char → Bool}
    (implies : ∀ character, admits character = true → more character = true)
    (separated : EachBehind mark admits text) :
    EachBehind mark more text where
  front := separated.front
  behind := separated.behind.imp fun before _ admitted same => implies before (admitted same)

/-- What stands before the mark admits it. -/
theorem exists_before
    (separated : EachBehind mark admits text)
    (present : mark ∈ text) :
    ∃ before ∈ text, before ≠ mark ∧ admits before = true := by
  obtain ⟨front, rest, rfl, absent⟩ := List.eq_append_cons_of_mem present
  rcases List.eq_nil_or_concat front with rfl | ⟨others, last, rfl⟩
  · exact absurd rfl separated.front
  · have joined := (List.isChain_append.mp separated.behind).2.2 last (by simp) mark rfl rfl
    refine ⟨last, by simp, ?_, joined⟩
    rintro rfl
    simp at absent

end EachBehind

/-! ## Parts of a literal -/

/-- Only letters have another small form. -/
theorem eq_of_toLower
    {character small : Char}
    (noLetter : small.isLower = false)
    (lower : character.toLower = small) :
    character = small := by
  rcases toLower_cases character with same | ⟨_, letter⟩
  · exact same.symm.trans lower
  · rw [lower, noLetter] at letter
    cases letter

/-- What is no separator stays, in its small form. -/
theorem clean_cons
    {character : Char}
    (kept : character ≠ '_')
    (text : List Char) :
    Number.clean (character :: text) = character.toLower :: Number.clean text := by
  simp [Number.clean, kept]

/-- A character of a text is a separator, or its small form stays. -/
theorem eq_or_mem_clean
    {text : List Char}
    {character : Char}
    (member : character ∈ text) :
    character = '_' ∨ character.toLower ∈ Number.clean text :=
  or_iff_not_imp_left.mpr fun kept => mem_clean member kept

/-- Of a character that admits separators so does the small form. -/
theorem admitsSeparator_toLower
    {based : Bool}
    {character : Char}
    (admitted : admitsSeparator based character = true) :
    admitsSeparator based character.toLower = true := by
  rcases Bool.or_eq_true_iff.mp admitted with digit | inBase
  · rw [toLower_of_continuesDigits digit]
    exact admitted
  · obtain ⟨rfl, letter⟩ := Bool.and_eq_true_iff.mp inBase
    rcases Bool.or_eq_true_iff.mp letter with hexadecimal | mark
    · simp [admitsSeparator, (toLower_of_isHexDigit hexadecimal).1]
    · rw [eq_of_beq mark]
      rfl

section Parts

variable {based : Bool} {text : List Char}

/-- Where a text is taken apart once it is cleaned, it can be taken apart before. -/
theorem exists_parts
    {first second : List Char}
    (separated : EachBehind '_' (admitsSeparator based) text)
    (cleaned : Number.clean text = first ++ second) :
    ∃ front behind, text = front ++ behind ∧
      (EachBehind '_' (admitsSeparator based) front ∧ Number.clean front = first) ∧
        (EachBehind '_' (admitsSeparator based) behind ∧ Number.clean behind = second) := by
  obtain ⟨kept, others, filtered, keptLower, othersLower⟩ := List.map_eq_append_iff.mp cleaned
  obtain ⟨front, behind, rfl, rfl, rfl⟩ := List.filter_eq_append_iff.mp filtered
  -- The separators behind the first part go to it, so that none leads the second part.
  have moved : front ++ behind =
      (front ++ behind.takeWhile (· == '_')) ++ behind.dropWhile (· == '_') := by
    rw [List.append_assoc, List.takeWhile_append_dropWhile]
  have nothing : Number.clean (behind.takeWhile (· == '_')) = [] := by
    simp only [Number.clean, List.map_eq_nil_iff, List.filter_eq_nil_iff]
    intro character member
    simpa using List.all_eq_true.mp List.all_takeWhile character member
  have rest : Number.clean (behind.dropWhile (· == '_')) = Number.clean behind := by
    conv_rhs => rw [← List.takeWhile_append_dropWhile (p := (· == '_')) (l := behind)]
    rw [clean_append, nothing, List.nil_append]
  rw [moved] at separated
  refine ⟨_, _, moved, ⟨⟨?_, separated.behind.left_of_append⟩, ?_⟩,
    ⟨⟨?_, separated.behind.right_of_append⟩, rest.trans othersLower⟩⟩
  · intro head
    refine separated.front ?_
    rw [List.head?_append, head, Option.some_or]
  · rw [clean_append, nothing, List.append_nil]
    exact keptLower
  · intro head
    have other := List.head?_dropWhile_not (· == '_') behind
    rw [head] at other
    cases other

/-- Nothing is left of a text without misplaced separators only if it is empty. -/
theorem eq_nil_of_clean
    (separated : EachBehind '_' (admitsSeparator based) text)
    (cleaned : Number.clean text = []) :
    text = [] := by
  cases text with
  | nil => rfl
  | cons first rest =>
      rcases eq_or_mem_clean (List.mem_cons_self (a := first) (l := rest)) with rfl | kept
      · exact absurd rfl separated.front
      · rw [cleaned] at kept
        cases kept

/-- Where nothing admits separators there are none. -/
theorem map_toLower_of_clean
    (separated : EachBehind '_' (admitsSeparator based) text)
    (closed : ∀ character ∈ Number.clean text, admitsSeparator based character = false) :
    text.map Char.toLower = Number.clean text := by
  have absent : '_' ∉ text := by
    intro present
    obtain ⟨before, member, kept, admitted⟩ := separated.exists_before present
    have outside := closed _ (mem_clean member kept)
    rw [admitsSeparator_toLower admitted] at outside
    cases outside
  have kept : text.filter (· != '_') = text := by
    apply List.filter_eq_self.mpr
    rintro character member
    rw [bne_iff_ne]
    rintro rfl
    exact absent member
  rw [Number.clean, kept]

/-- A character that is cleaned to a digit is that digit. -/
theorem isDigit_of_toLower
    {character : Char}
    (digit : character.toLower.isDigit = true) :
    character.isDigit = true := by
  rcases toLower_cases character with same | ⟨_, letter⟩
  · rwa [same] at digit
  · have bound := toNat_of_isDigit digit
    have range := isLower_iff.mp letter
    omega

/-- What is cleaned to digits are digits with separators. -/
theorem digitsText_of_clean
    (separated : EachBehind '_' (admitsSeparator based) text)
    (filled : Number.clean text ≠ [])
    (areDigits : ∀ digit ∈ Number.clean text, digit.isDigit = true) :
    DigitsText text := by
  have inside : ∀ character ∈ text, continuesDigits character = true := by
    intro character member
    rcases eq_or_mem_clean member with rfl | kept
    · rfl
    · simp [continuesDigits, isDigit_of_toLower (areDigits _ kept)]
  cases text with
  | nil => exact absurd rfl filled
  | cons first rest =>
      obtain ⟨firstInside, restInside⟩ := List.forall_mem_cons.mp inside
      rcases Bool.or_eq_true_iff.mp firstInside with digit | separator
      · exact .intro digit restInside
      · rw [eq_of_beq separator] at separated
        exact absurd rfl separated.front

end Parts

end InitializerJson
