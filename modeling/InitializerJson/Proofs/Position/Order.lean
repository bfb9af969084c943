import InitializerJson.Position

namespace InitializerJson.Position

/-!
# The order of positions

Positions are ordered by their lines, and within a line by their columns.  Every
character leads to a later position, so that no two places of a text share one.
-/

/-- A position comes before another one: on an earlier line, or earlier on its line. -/
def Precedes
    (first second : Position) :
    Prop :=
  first.line < second.line ∨ first.line = second.line ∧ first.column < second.column

/-- The order of positions is transitive. -/
theorem Precedes.trans
    {first second third : Position}
    (earlier : first.Precedes second)
    (later : second.Precedes third) :
    first.Precedes third := by
  unfold Precedes at *
  omega

/-- Lines and columns are counted from one. -/
theorem one_le_after
    (before : List Char) :
    1 ≤ (after before).line ∧ 1 ≤ (after before).column := by
  simp [after]

/-- One more character leads to a later position. -/
theorem precedes_advance
    (position : Position)
    (character : Char) :
    position.Precedes (position.advance character) := by
  unfold Precedes advance
  split
  · exact .inl (Nat.lt_succ_self _)
  · exact .inr ⟨rfl, Nat.lt_succ_self _⟩

/-- Some more characters lead to a later position. -/
theorem precedes_foldl_advance
    (position : Position)
    {characters : List Char}
    (nonempty : characters ≠ []) :
    position.Precedes (characters.foldl advance position) := by
  induction characters generalizing position with
  | nil => exact absurd rfl nonempty
  | cons character characters hypothesis =>
      have first := position.precedes_advance character
      by_cases last : characters = []
      · rw [last]
        exact first
      · exact first.trans (hypothesis (position.advance character) last)

/-- What comes before a position comes before those that some more characters lead to. -/
theorem Precedes.foldl_advance
    {earlier position : Position}
    (before : earlier.Precedes position)
    (characters : List Char) :
    earlier.Precedes (characters.foldl advance position) := by
  by_cases nothing : characters = []
  · rw [nothing]
    exact before
  · exact before.trans (position.precedes_foldl_advance nothing)

/-- Counting a text at once agrees with moving on from any place in it. -/
theorem after_append_eq_foldl
    (before characters : List Char) :
    after (before ++ characters) = characters.foldl advance (after before) := by
  induction characters generalizing before with
  | nil => rw [List.append_nil, List.foldl_nil]
  | cons character characters hypothesis =>
      rw [List.append_cons, hypothesis, after_concat, List.foldl_cons]

end InitializerJson.Position
