import InitializerJson.Expression.Basic
import Mathlib.Logic.Relation

namespace InitializerJson.Expression

/-!
# Expressions inside expressions

The parts of an expression are the expressions right inside it: its arguments,
its entries, or its assigned value.  An expression lies within another one when
a path of parts leads to it.
-/

/-- The expressions right inside an expression, in the order of the source. -/
def parts : Expression → List Expression
  | invocation _ arguments => arguments
  | creation _ arguments block => arguments ++ block.getD []
  | targetTypedCreation arguments block => arguments ++ block.getD []
  | assignment _ _ value => [value]
  | initializer entries => entries
  | _ => []

/-- An expression is a part of another one. -/
def IsPartOf
    (part whole : Expression) :
    Prop :=
  part ∈ whole.parts

/-- An expression is another one or lies somewhere inside it. -/
def IsWithin
    (inner whole : Expression) :
    Prop :=
  Relation.ReflTransGen IsPartOf inner whole

/-- An expression lies somewhere inside another one. -/
def IsInside
    (inner whole : Expression) :
    Prop :=
  Relation.TransGen IsPartOf inner whole

/-- What lies within a part lies within the whole. -/
theorem IsWithin.of_part
    {inner part whole : Expression}
    (within : inner.IsWithin part)
    (isPart : part ∈ whole.parts) :
    inner.IsWithin whole :=
  within.tail isPart

/-- What lies within an expression is the expression or lies within one of its parts. -/
theorem isWithin_iff
    {inner whole : Expression} :
    inner.IsWithin whole ↔ inner = whole ∨ ∃ part ∈ whole.parts, inner.IsWithin part := by
  constructor
  · intro within
    rcases Relation.ReflTransGen.cases_tail within with same | ⟨part, below, isPart⟩
    · exact .inl same.symm
    · exact .inr ⟨part, isPart, below⟩
  · rintro (rfl | ⟨part, isPart, within⟩)
    · exact .refl
    · exact within.of_part isPart

/-- What lies inside an expression lies within one of its parts. -/
theorem isInside_iff
    {inner whole : Expression} :
    inner.IsInside whole ↔ ∃ part ∈ whole.parts, inner.IsWithin part := by
  rw [IsInside, Relation.TransGen.tail'_iff]
  constructor
  · rintro ⟨part, within, isPart⟩
    exact ⟨part, isPart, within⟩
  · rintro ⟨part, isPart, within⟩
    exact ⟨part, within, isPart⟩

/-- A part is smaller than the whole. -/
theorem sizeOf_lt_of_mem_parts
    {part whole : Expression}
    (isPart : part ∈ whole.parts) :
    sizeOf part < sizeOf whole := by
  cases whole with
  | invocation callee arguments =>
      have smaller : sizeOf part < sizeOf arguments :=
        List.sizeOf_lt_of_mem isPart
      simp only [invocation.sizeOf_spec]
      omega
  | creation type arguments block | targetTypedCreation arguments block =>
      rcases List.mem_append.mp isPart with inArguments | inBlock
      · have smaller := List.sizeOf_lt_of_mem inArguments
        simp only [creation.sizeOf_spec, targetTypedCreation.sizeOf_spec]
        omega
      · cases block with
        | none => cases inBlock
        | some entries =>
            have smaller := List.sizeOf_lt_of_mem inBlock
            simp only [Option.getD_some] at smaller
            simp only [creation.sizeOf_spec, targetTypedCreation.sizeOf_spec,
              Option.some.sizeOf_spec]
            omega
  | assignment target bare value =>
      cases List.mem_singleton.mp isPart
      simp only [assignment.sizeOf_spec]
      omega
  | initializer entries =>
      have smaller : sizeOf part < sizeOf entries :=
        List.sizeOf_lt_of_mem isPart
      simp only [initializer.sizeOf_spec]
      omega
  | literal | name | index | unsupported => cases isPart

/-- What passes from the parts of an expression to the whole holds of every expression. -/
theorem partsInduction
    {motive : Expression → Prop}
    (step : ∀ whole, (∀ part ∈ whole.parts, motive part) → motive whole)
    (expression : Expression) :
    motive expression :=
  step expression fun part isPart =>
    have := sizeOf_lt_of_mem_parts isPart
    partsInduction step part
termination_by sizeOf expression

mutual

/-- Whether all expressions within an expression pass a test. -/
def allWithin
    (test : Expression → Bool) :
    Expression → Bool
  | invocation callee arguments =>
      test (invocation callee arguments) && allWithinEach test arguments
  | creation type arguments none =>
      test (creation type arguments none) && allWithinEach test arguments
  | creation type arguments (some block) =>
      test (creation type arguments (some block)) &&
        (allWithinEach test arguments && allWithinEach test block)
  | targetTypedCreation arguments none =>
      test (targetTypedCreation arguments none) && allWithinEach test arguments
  | targetTypedCreation arguments (some block) =>
      test (targetTypedCreation arguments (some block)) &&
        (allWithinEach test arguments && allWithinEach test block)
  | assignment target bare value =>
      test (assignment target bare value) && allWithin test value
  | initializer entries => test (initializer entries) && allWithinEach test entries
  | whole => test whole

/-- Whether all expressions within some expressions pass a test. -/
def allWithinEach
    (test : Expression → Bool) :
    List Expression → Bool
  | [] => true
  | expression :: rest => allWithin test expression && allWithinEach test rest

end

/-- Some expressions are tested one by one. -/
theorem allWithinEach_eq_all
    (test : Expression → Bool)
    (expressions : List Expression) :
    allWithinEach test expressions = expressions.all (allWithin test) := by
  induction expressions with
  | nil => rfl
  | cons expression rest hypothesis => rw [allWithinEach, hypothesis, List.all_cons]

/-- A whole is tested together with all that lies within its parts. -/
theorem allWithin_eq
    (test : Expression → Bool)
    (whole : Expression) :
    whole.allWithin test = (test whole && whole.parts.all (allWithin test)) := by
  cases whole with
  | creation type arguments block | targetTypedCreation arguments block =>
      cases block <;> simp [allWithin, allWithinEach_eq_all, parts]
  | invocation | initializer | assignment => simp [allWithin, allWithinEach_eq_all, parts]
  | literal | name | index | unsupported => simp [allWithin, parts]

/-- All expressions within a whole pass a test exactly when each of them does. -/
theorem allWithin_iff
    {test : Expression → Bool}
    {whole : Expression} :
    whole.allWithin test = true ↔
      ∀ inner : Expression, inner.IsWithin whole → test inner = true := by
  induction whole using partsInduction with
  | step whole hypothesis =>
      rw [allWithin_eq, Bool.and_eq_true, List.all_eq_true]
      constructor
      · rintro ⟨here, below⟩ inner within
        rcases isWithin_iff.mp within with rfl | ⟨part, isPart, inPart⟩
        · exact here
        · exact (hypothesis part isPart).mp (below part isPart) inner inPart
      · intro all
        refine ⟨all whole .refl, fun part isPart => ?_⟩
        exact (hypothesis part isPart).mpr fun inner within => all inner (within.of_part isPart)

end InitializerJson.Expression
