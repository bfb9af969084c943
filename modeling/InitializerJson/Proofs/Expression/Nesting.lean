import InitializerJson.Proofs.Expression.PartPlaces

namespace InitializerJson

open Lexical Expression

/-!
# Readings that do not run out of room

A reading fits into some room when no expression in it is passed over for want of
room.  More room then changes nothing, so that a creation reads the same from its
own site as it does anywhere inside another expression.
-/

/-- Whether an expression and all that it asks for can be opened with some room. -/
def fitsWithin : (room : Nat) → List Token → Bool
  | 0, _ => false
  | room + 1, tokens => (operationPlaces (expressionReader room) tokens).all (fitsWithin room)

/-- Whether all that a creation asks for can be opened with some room. -/
def creationFitsWithin
    (room : Nat)
    (tokens : List Token) :
    Bool :=
  (creationPlaces (expressionReader room) tokens).all (fitsWithin room)

/-- One more layer of room does not change a reading that fits. -/
theorem read_succ_of_fits
    {room : Nat}
    {tokens : List Token}
    (fits : fitsWithin room tokens = true) :
    (expressionReader (room + 1)).read tokens = (expressionReader room).read tokens ∧
      fitsWithin (room + 1) tokens = true := by
  induction room generalizing tokens with
  | zero => cases fits
  | succ room hypothesis =>
      -- Every place of the reading fits with one layer less, so both inner readers agree there.
      have inner := List.all_eq_true.mp fits
      have agree :
          Agree (expressionReader room) (expressionReader (room + 1))
            (operationPlaces (expressionReader room) tokens) :=
        fun place member => (hypothesis (inner place member)).1
      obtain ⟨same, samePlaces⟩ := readOperation_congr agree
      refine ⟨same, ?_⟩
      rw [fitsWithin, samePlaces, List.all_eq_true]
      exact fun place member => (hypothesis (inner place member)).2

/-- More room does not change a reading that fits. -/
theorem read_of_fits
    {room more : Nat}
    {tokens : List Token}
    (fits : fitsWithin room tokens = true)
    (enough : room ≤ more) :
    (expressionReader more).read tokens = (expressionReader room).read tokens ∧
      fitsWithin more tokens = true := by
  induction enough with
  | refl => exact ⟨rfl, fits⟩
  | step _ hypothesis =>
      obtain ⟨same, fitsMore⟩ := hypothesis
      obtain ⟨sameAgain, fitsAgain⟩ := read_succ_of_fits fitsMore
      exact ⟨sameAgain.trans same, fitsAgain⟩

/-- More room does not change a creation that fits. -/
theorem readCreation_of_fits
    {room more : Nat}
    {tokens : List Token}
    (fits : creationFitsWithin room tokens = true)
    (enough : room ≤ more) :
    readCreation (expressionReader more) tokens =
        readCreation (expressionReader room) tokens ∧
      creationFitsWithin more tokens = true := by
  have inner := List.all_eq_true.mp fits
  have agree :
      Agree (expressionReader room) (expressionReader more)
        (creationPlaces (expressionReader room) tokens) :=
    fun place member => (read_of_fits (inner place member) enough).1
  obtain ⟨same, samePlaces⟩ := readCreation_congr agree
  refine ⟨same, ?_⟩
  rw [creationFitsWithin, samePlaces, List.all_eq_true]
  exact fun place member => (read_of_fits (inner place member) enough).2

/-- A creation is read from its `new` with room for all of it. -/
structure CreatedAt
    (room : Nat)
    (place : List Token)
    (creation : Creation) :
    Prop where
  begins : firstWord? place = some "new"
  reads : (readCreation (expressionReader room) place).1 = creation.toExpression
  fits : creationFitsWithin room place = true

/-- A creation is read in the same way with more room. -/
theorem CreatedAt.mono
    {room more : Nat}
    {place : List Token}
    {creation : Creation}
    (created : CreatedAt room place creation)
    (enough : room ≤ more) :
    CreatedAt more place creation := by
  obtain ⟨same, fits⟩ := readCreation_of_fits created.fits enough
  exact ⟨created.begins, by rw [same, created.reads], fits⟩

/-- An expression that fits and reads as a creation is that creation, read from its `new`. -/
theorem createdAt_of_read
    {room : Nat}
    {tokens : List Token}
    {creation : Creation}
    (fits : fitsWithin room tokens = true)
    (reads : ((expressionReader room).read tokens).1 = creation.toExpression) :
    CreatedAt room tokens creation := by
  cases room with
  | zero => cases fits
  | succ room =>
      have inner := List.all_eq_true.mp fits
      obtain ⟨begins, sameReading, places⟩ := readCreation_eq_of_readOperation reads
      have created : CreatedAt room tokens creation :=
        ⟨begins, sameReading,
          List.all_eq_true.mpr fun place member => inner place (places place member)⟩
      exact created.mono (Nat.le_succ room)

/-- Every creation within an expression that fits is read from a `new` of its own. -/
theorem exists_createdAt_of_isWithin
    {room : Nat}
    {tokens : List Token}
    {creation : Creation}
    (fits : fitsWithin room tokens = true)
    (within : creation.toExpression.IsWithin ((expressionReader room).read tokens).1) :
    ∃ place, place <:+ tokens ∧ CreatedAt room place creation := by
  induction room generalizing tokens with
  | zero => cases fits
  | succ room hypothesis =>
      have inner := List.all_eq_true.mp fits
      rcases isWithin_iff.mp within with whole | ⟨part, isPart, withinPart⟩
      · exact ⟨tokens, List.suffix_refl tokens, createdAt_of_read fits whole.symm⟩
      · obtain ⟨place, member, rfl⟩ := List.mem_map.mp (mem_parts_readOperation isPart)
        obtain ⟨site, behind, created⟩ := hypothesis (inner place member) withinPart
        exact ⟨site, behind.trans (suffix_of_mem_operationPlaces member),
          created.mono (Nat.le_succ room)⟩

/-- Every creation inside another one is read from a `new` behind that of the other. -/
theorem CreatedAt.exists_createdAt_of_isInside
    {room : Nat}
    {place : List Token}
    {outer inner : Creation}
    (created : CreatedAt room place outer)
    (inside : inner.toExpression.IsInside outer.toExpression) :
    ∃ innerPlace, innerPlace <:+ place.tail ∧ CreatedAt room innerPlace inner := by
  obtain ⟨part, isPart, within⟩ := isInside_iff.mp inside
  rw [← created.reads, parts_readCreation] at isPart
  obtain ⟨partPlace, member, rfl⟩ := List.mem_map.mp isPart
  have fits := List.all_eq_true.mp created.fits partPlace member
  obtain ⟨innerPlace, behind, createdInside⟩ := exists_createdAt_of_isWithin fits within
  exact ⟨innerPlace, behind.trans (suffix_of_mem_creationPlaces member), createdInside⟩

end InitializerJson
