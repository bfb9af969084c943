import InitializerJson.Proofs.Lexical.WordLexeme

namespace InitializerJson.Lexical

open Character

/-!
# Punctuators are read back

A punctuator is read back from its spelling unless the next character makes it a
longer one, or a comment of a slash, or a numeral of a dot.
-/

namespace Punctuator

/-- The characters that make a punctuator part of a longer one. -/
def continuations
    (punctuator : Punctuator) :
    List Char :=
  all.filterMap fun longer =>
    (afterMark? punctuator.spelling longer.spelling).bind List.head?

/-- A punctuator ends here: the next character makes it nothing else. -/
structure EndsBefore
    (punctuator : Punctuator)
    (rest : List Char) :
    Prop where
  notLonger : ∀ next ∈ rest.head?, next ∉ punctuator.continuations
  notNumeral : punctuator = dot → EndsRun Char.isDigit rest

/-- No punctuator begins with one that is listed before it. -/
theorem not_isPrefix_of_before :
    ∀ punctuator ∈ all, ∀ before ∈ all.takeWhile (· ≠ punctuator),
      ¬ before.spelling <+: punctuator.spelling := by
  decide +kernel

/-- A punctuator is the first of the list that fits when no longer one does. -/
theorem read?_spelling
    {punctuator : Punctuator}
    {rest : List Char}
    (notLonger : ∀ next ∈ rest.head?, next ∉ punctuator.continuations) :
    read? (punctuator.spelling ++ rest) = some (punctuator, rest) := by
  have placed :
      ∃ later, all = all.takeWhile (· ≠ punctuator) ++ punctuator :: later := by
    cases punctuator <;> exact ⟨_, rfl⟩
  obtain ⟨later, order⟩ := placed
  rw [read?, List.findSome?_eq_some_iff]
  refine ⟨_, punctuator, later, order, ?_, ?_⟩
  · rw [afterMark?_eq_some_iff.mpr rfl]
    rfl
  · intro before member
    rw [Option.map_eq_none_iff]
    cases found : afterMark? before.spelling (punctuator.spelling ++ rest) with
    | none => rfl
    | some behind =>
        rcases List.append_eq_append_iff.mp (afterMark?_eq_some_iff.mp found) with
          ⟨more, longer, shape⟩ | ⟨more, shorter, shape⟩
        · cases more with
          | nil =>
              have same : before.spelling <+: punctuator.spelling :=
                ⟨[], by simp [longer]⟩
              exact absurd same (not_isPrefix_of_before _ (mem_all _) before member)
          | cons next others =>
              have continued : next ∈ punctuator.continuations := by
                refine List.mem_filterMap.mpr ⟨before, mem_all before, ?_⟩
                rw [afterMark?_eq_some_iff.mpr longer]
                rfl
              exact absurd continued (notLonger next (by simp [shape]))
        · exact absurd ⟨more, shorter.symm⟩
            (not_isPrefix_of_before _ (mem_all _) before member)

/-- Whether a character begins no gap, text, numeral or word. -/
def beginsMark
    (first : Char) :
    Bool :=
  !isBlank first && first != '#' && first != '"' && first != '$' && first != '\'' &&
    first != '@' && !first.isDigit && !beginsIdentifier first

/-- What begins a punctuator begins no gap, text, numeral or word. -/
theorem first_spelling :
    ∀ punctuator ∈ all, punctuator.spelling.head?.all beginsMark = true := by
  decide +kernel

/-- A punctuator that begins with a point is the dot, or goes on with another point. -/
theorem spelling_of_point :
    ∀ punctuator ∈ all, punctuator.spelling.head? = some '.' →
      punctuator = dot ∨ punctuator = range := by
  decide

/-- A punctuator is the kind that is read where it ends. -/
theorem EndsBefore.readKind?_append
    {punctuator : Punctuator}
    {rest : List Char}
    (ends : punctuator.EndsBefore rest) :
    readKind? (punctuator.spelling ++ rest) = some (.punctuator punctuator, rest) := by
  have read := read?_spelling ends.notLonger
  have properties := first_spelling punctuator (mem_all punctuator)
  have pointed := spelling_of_point punctuator (mem_all punctuator)
  obtain ⟨first, others, shape⟩ := List.exists_cons_of_ne_nil (spelling_ne_nil punctuator)
  rw [shape, List.head?_cons] at properties pointed
  obtain ⟨_, _, notQuote, notDollar, notApostrophe, notAt, notDigit, notLetter⟩ := by
    simpa [beginsMark, and_assoc] using properties
  have beginsNoText : BeginsNoText first (others ++ rest) :=
    ⟨notQuote, notDollar, notApostrophe, fun marked => absurd marked notAt⟩
  have notPointed : first = '.' → EndsRun Char.isDigit (others ++ rest) := by
    rintro rfl
    rcases pointed rfl with rfl | rfl
    · cases shape
      exact ends.notNumeral rfl
    · cases shape
      intro next member
      cases member
      rfl
  have noNumeral : afterNumeral? (first :: (others ++ rest)) = none :=
    afterNumeral?_eq_none notDigit notPointed
  have noIdentifier : afterIdentifier? (first :: (others ++ rest)) = none := by
    simp [afterIdentifier?, optionally, afterMark?, Ne.symm notAt, notLetter]
  rw [shape, List.cons_append] at read ⊢
  rw [readKind?_of_beginsNoText beginsNoText, noNumeral, noIdentifier, read]
  rfl

/-- A punctuator is read back where it ends, unless it begins with a slash. -/
theorem EndsBefore.isLexeme
    {punctuator : Punctuator}
    {rest : List Char}
    (ends : punctuator.EndsBefore rest)
    (notSlash : punctuator.spelling.head? ≠ some '/') :
    IsLexeme (.punctuator punctuator) punctuator.spelling rest := by
  have read := ends.readKind?_append
  have properties := first_spelling punctuator (mem_all punctuator)
  obtain ⟨first, others, shape⟩ := List.exists_cons_of_ne_nil (spelling_ne_nil punctuator)
  rw [shape] at read ⊢
  rw [shape, List.head?_cons] at properties notSlash
  obtain ⟨notBlank, notHash, _⟩ := by
    simpa [beginsMark, and_assoc] using properties
  have slash : first ≠ '/' := by
    simpa using notSlash
  exact isLexeme_of_readKind? notBlank slash notHash read

/-- No punctuator goes on in a space. -/
theorem space_notMem_continuations :
    ∀ punctuator ∈ all, ' ' ∉ punctuator.continuations := by
  decide +kernel

/-- A punctuator ends before a space. -/
theorem endsBefore_space
    (punctuator : Punctuator)
    (rest : List Char) :
    punctuator.EndsBefore (' ' :: rest) where
  notLonger := by
    intro next first
    cases first
    exact space_notMem_continuations punctuator (mem_all punctuator)
  notNumeral _ := by
    intro next first
    cases first
    rfl

end Punctuator

end InitializerJson.Lexical
