import InitializerJson.Proofs.Expression.PartPlaces

namespace InitializerJson

open Lexical

/-!
# The numbers in what is read

Whatever the tokens are, every number in an expression that is read from them is
written by a numeric literal.
-/

/-- The numbers in an expression are written by literals. -/
def Expression.WritesNumbers
    (expression : Expression) :
    Prop :=
  ∀ number, (literal (.number number)).IsWithin expression → number.IsOfLiteral

/-- The numbers in a part are among those in the whole. -/
theorem Expression.WritesNumbers.of_part
    {part whole : Expression}
    (writes : whole.WritesNumbers)
    (isPart : part ∈ whole.parts) :
    part.WritesNumbers :=
  fun number within => writes number (within.of_part isPart)

/-- What is no number has the numbers of its parts. -/
theorem Expression.writesNumbers_of_parts
    {whole : Expression}
    (notNumber : ∀ number, whole ≠ literal (.number number))
    (writes : ∀ part ∈ whole.parts, part.WritesNumbers) :
    whole.WritesNumbers := by
  intro number within
  rcases isWithin_iff.mp within with same | ⟨part, isPart, withinPart⟩
  · exact absurd same.symm (notNumber number)
  · exact writes part isPart number withinPart

/-- The numbers in an expression that is read are written by literals. -/
theorem writesNumbers_read
    (room : Nat)
    (tokens : List Token) :
    ((expressionReader room).read tokens).1.WritesNumbers := by
  induction room generalizing tokens with
  | zero =>
      apply Expression.writesNumbers_of_parts
      · intro number same
        cases same
      · intro part isPart
        cases isPart
  | succ room hypothesis =>
      intro number within
      rcases Expression.isWithin_iff.mp within with same | ⟨part, isPart, withinPart⟩
      · exact isOfLiteral_of_readOperation same.symm
      · obtain ⟨place, _, rfl⟩ := List.mem_map.mp (mem_parts_readOperation isPart)
        exact hypothesis place number withinPart

/-- The numbers in the parts of a creation that is read are written by literals. -/
theorem writesNumbers_parts_readCreation
    (room : Nat)
    {tokens : List Token}
    {part : Expression}
    (isPart : part ∈ (readCreation (expressionReader room) tokens).1.parts) :
    part.WritesNumbers := by
  rw [parts_readCreation] at isPart
  obtain ⟨place, _, rfl⟩ := List.mem_map.mp isPart
  exact writesNumbers_read room place

end InitializerJson
