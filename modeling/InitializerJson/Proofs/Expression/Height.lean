import InitializerJson.Proofs.Expression.PartPlaces

namespace InitializerJson

open Lexical Expression

/-!
# The height of expressions

The height of an expression counts the expressions on the longest path into it.
Only the reading of inner expressions adds to it, and every such reading has one
layer less of room, so that no expression is higher than its room allows.
-/

namespace Expression

mutual

/-- The number of expressions on the longest path from an expression into its parts. -/
def height : Expression → Nat
  | invocation _ arguments => heightEach arguments + 1
  | creation _ arguments none => heightEach arguments + 1
  | creation _ arguments (some block) => max (heightEach arguments) (heightEach block) + 1
  | targetTypedCreation arguments none => heightEach arguments + 1
  | targetTypedCreation arguments (some block) =>
      max (heightEach arguments) (heightEach block) + 1
  | assignment _ _ value => height value + 1
  | initializer entries => heightEach entries + 1
  | _ => 1

/-- The height of the highest of some expressions. -/
def heightEach : List Expression → Nat
  | [] => 0
  | expression :: rest => max (height expression) (heightEach rest)

end

/-- The highest of some expressions is within a bound when each of them is. -/
theorem heightEach_le_iff
    {expressions : List Expression}
    {bound : Nat} :
    heightEach expressions ≤ bound ↔ ∀ expression ∈ expressions, expression.height ≤ bound := by
  induction expressions with
  | nil => simp [heightEach]
  | cons expression rest hypothesis =>
      rw [heightEach, Nat.max_le, hypothesis, List.forall_mem_cons]

/-- The highest of some expressions and others is the higher of the two highest ones. -/
theorem heightEach_append
    (expressions others : List Expression) :
    heightEach (expressions ++ others) = max (heightEach expressions) (heightEach others) := by
  induction expressions with
  | nil => exact (Nat.zero_max _).symm
  | cons expression rest hypothesis =>
      rw [List.cons_append, heightEach, heightEach, hypothesis, Nat.max_assoc]

/-- An expression is one higher than the highest of its parts. -/
theorem height_eq
    (whole : Expression) :
    whole.height = heightEach whole.parts + 1 := by
  cases whole with
  | creation type arguments block | targetTypedCreation arguments block =>
      cases block <;> simp [height, parts, heightEach_append]
  | assignment target bare value => simp [height, parts, heightEach]
  | invocation | initializer => rfl
  | literal | name | index | unsupported => rfl

/-- Every expression has some height. -/
theorem height_pos
    (whole : Expression) :
    0 < whole.height := by
  rw [height_eq]
  exact Nat.succ_pos _

/-- An expression is within a bound when its parts are one lower. -/
theorem height_le_succ_iff
    {whole : Expression}
    {bound : Nat} :
    whole.height ≤ bound + 1 ↔ ∀ part ∈ whole.parts, part.height ≤ bound := by
  rw [height_eq, Nat.add_le_add_iff_right, heightEach_le_iff]

/-- A part is lower than the whole. -/
theorem height_lt_of_mem_parts
    {part whole : Expression}
    (isPart : part ∈ whole.parts) :
    part.height < whole.height := by
  rw [height_eq whole]
  exact Nat.lt_succ_of_le (heightEach_le_iff.mp (Nat.le_refl _) part isPart)

/-- What lies within an expression is not higher than it. -/
theorem IsWithin.height_le
    {inner whole : Expression}
    (within : inner.IsWithin whole) :
    inner.height ≤ whole.height := by
  induction within with
  | refl => exact Nat.le_refl _
  | tail _ isPart hypothesis =>
      exact Nat.le_trans hypothesis (Nat.le_of_lt (height_lt_of_mem_parts isPart))

end Expression

/-- Answers within a bound stay within it at any places. -/
theorem Reader.height_le_of_mem_answers
    {inner : Reader Expression}
    {bound : Nat}
    (within : ∀ tokens, (inner.read tokens).1.height ≤ bound)
    {places : List (List Token)}
    {answer : Expression}
    (member : answer ∈ inner.answers places) :
    answer.height ≤ bound := by
  obtain ⟨place, _, rfl⟩ := List.mem_map.mp member
  exact within place

/-- An expression is at most one higher than the layers that it may open. -/
theorem height_read_le
    (room : Nat)
    (tokens : List Token) :
    ((expressionReader room).read tokens).1.height ≤ room + 1 := by
  induction room generalizing tokens with
  | zero => exact Nat.le_refl 1
  | succ room hypothesis =>
      refine height_le_succ_iff.mpr fun part isPart => ?_
      exact Reader.height_le_of_mem_answers hypothesis (mem_parts_readOperation isPart)

/-- A creation is at most one higher than the expressions read inside it. -/
theorem height_readCreation_le
    (room : Nat)
    (tokens : List Token) :
    (readCreation (expressionReader room) tokens).1.height ≤ room + 2 := by
  refine height_le_succ_iff.mpr fun part isPart => ?_
  rw [parts_readCreation] at isPart
  exact Reader.height_le_of_mem_answers (height_read_le room) isPart

end InitializerJson
