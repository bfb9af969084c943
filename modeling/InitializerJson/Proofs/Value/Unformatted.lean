import InitializerJson.Proofs.Expression.Parts
import InitializerJson.Proofs.Expression.Unformatted
import InitializerJson.Proofs.Value.BlockShape

namespace InitializerJson

/-!
# Values do not depend on formatting

The texts that formatting changes never come into a value, except as the targets
of assignments to something else than a single identifier.  Where an expression
holds no such assignment, it stands for the same value without these texts.
-/

namespace Expression

/-- Every assignment within an expression is to a single identifier. -/
def AssignsBare
    (expression : Expression) :
    Prop :=
  ∀ target bare value, (assignment target bare value).IsWithin expression → bare = true

/-- The parts of an expression lose their formatting with it. -/
theorem parts_unformatted
    (expression : Expression) :
    expression.unformatted.parts = expression.parts.map unformatted := by
  cases expression with
  | creation type arguments block | targetTypedCreation arguments block =>
      cases block <;> simp [parts]
  | invocation | assignment | initializer => simp [parts]
  | literal | name | index | unsupported => rfl

/-- Whether an expression is itself an assignment to something else than an identifier. -/
def isCompoundAssignment : Expression → Bool
  | assignment _ bare _ => !bare
  | _ => false

/-- An expression is such an assignment with its formatting or without. -/
theorem isCompoundAssignment_unformatted
    (expression : Expression) :
    expression.unformatted.isCompoundAssignment = expression.isCompoundAssignment := by
  cases expression with
  | creation _ _ block | targetTypedCreation _ block => cases block <;> rfl
  | assignment _ bare _ => cases bare <;> rfl
  | _ => rfl

/-- All assignments are bare exactly when none within the whole is to something else. -/
theorem assignsBare_iff_allWithin
    {expression : Expression} :
    expression.AssignsBare ↔
      expression.allWithin (fun inner => !inner.isCompoundAssignment) = true := by
  rw [allWithin_iff]
  constructor
  · intro assigns inner within
    cases inner with
    | assignment target bare value =>
        simp [isCompoundAssignment, assigns target bare value within]
    | _ => rfl
  · intro passes target bare value within
    simpa [isCompoundAssignment] using passes _ within

instance : DecidablePred AssignsBare :=
  fun _ => decidable_of_iff' _ assignsBare_iff_allWithin

/-- All assignments are bare exactly when the whole is no other one and the parts hold none. -/
theorem assignsBare_iff
    {expression : Expression} :
    expression.AssignsBare ↔
      expression.isCompoundAssignment = false ∧ ∀ part ∈ expression.parts, part.AssignsBare := by
  simp only [assignsBare_iff_allWithin]
  rw [allWithin_eq, Bool.and_eq_true, Bool.not_eq_true', List.all_eq_true]

/-- All assignments are bare with formatting exactly when they are without. -/
theorem assignsBare_unformatted
    (expression : Expression) :
    expression.unformatted.AssignsBare ↔ expression.AssignsBare := by
  induction expression using partsInduction with
  | step whole hypothesis =>
      rw [assignsBare_iff, @assignsBare_iff whole,
        isCompoundAssignment_unformatted, parts_unformatted, List.forall_mem_map]
      exact and_congr_right fun _ => forall₂_congr hypothesis

end Expression

namespace Value

open Expression

/-- Expressions that stand for the same values without formatting do so together. -/
theorem ofExpressions_unformatted
    {expressions : List Expression}
    (same : ∀ expression ∈ expressions,
      ofExpression expression.unformatted = ofExpression expression) :
    ofExpressions (expressions.map unformatted) = ofExpressions expressions := by
  rw [ofExpressions_eq_map, ofExpressions_eq_map, List.map_map]
  exact List.map_congr_left same

/-- Entries that contribute the same without formatting do so together. -/
theorem ofEntryList_unformatted
    {entries : List Expression}
    (same : ∀ entry ∈ entries, ofEntry entry.unformatted = ofEntry entry) :
    ofEntryList (entries.map unformatted) = ofEntryList entries := by
  rw [ofEntryList_eq_map, ofEntryList_eq_map, List.map_map]
  exact List.map_congr_left same

/--
An expression whose assignments are all to single identifiers stands for the same
value without its formatting, by itself and as an entry.
-/
theorem of_unformatted
    {expression : Expression}
    (assigns : expression.AssignsBare) :
    ofExpression expression.unformatted = ofExpression expression ∧
      ofEntry expression.unformatted = ofEntry expression := by
  induction expression using partsInduction with
  | step whole hypothesis =>
      obtain ⟨notCompound, partsAssign⟩ := assignsBare_iff.mp assigns
      have values : ∀ part ∈ whole.parts, ofExpression part.unformatted = ofExpression part :=
        fun part isPart => (hypothesis part isPart (partsAssign part isPart)).1
      have contributions : ∀ part ∈ whole.parts, ofEntry part.unformatted = ofEntry part :=
        fun part isPart => (hypothesis part isPart (partsAssign part isPart)).2
      cases whole with
      | literal | name | index | unsupported => exact ⟨rfl, rfl⟩
      | invocation callee arguments =>
          refine ⟨?_, rfl⟩
          cases arguments with
          | nil => rfl
          | cons first others => exact values first List.mem_cons_self
      | creation type arguments block =>
          cases block with
          | none => exact ⟨rfl, rfl⟩
          | some entries =>
              have inBlock : ofEntryList (entries.map unformatted) = ofEntryList entries :=
                ofEntryList_unformatted fun entry member =>
                  contributions entry (List.mem_append_right arguments member)
              simp [ofExpression, ofEntry, inBlock]
      | targetTypedCreation arguments block =>
          cases block with
          | none =>
              have items : ofExpressions (arguments.map unformatted) = ofExpressions arguments :=
                ofExpressions_unformatted fun argument member =>
                  values argument (List.mem_append_left [] member)
              simp [ofExpression, ofEntry, items]
          | some entries =>
              have inBlock : ofEntryList (entries.map unformatted) = ofEntryList entries :=
                ofEntryList_unformatted fun entry member =>
                  contributions entry (List.mem_append_right arguments member)
              simp [ofExpression, ofEntry, inBlock]
      | assignment target bare value =>
          have isBare : bare = true := by
            simpa [isCompoundAssignment] using notCompound
          subst isBare
          refine ⟨rfl, ?_⟩
          rw [unformatted, ofEntry, ofEntry, values value List.mem_cons_self]
      | initializer entries =>
          refine ⟨rfl, ?_⟩
          rw [unformatted_initializer]
          rcases entries with _ | ⟨key, _ | ⟨value, _ | ⟨third, more⟩⟩⟩
          · rfl
          · rfl
          · simp [ofEntry, values key (by simp [parts]), values value (by simp [parts])]
          · rfl

/-- A block whose assignments are all to single identifiers is the same object. -/
theorem ofRoot_unformatted
    {block : List Expression}
    (assigns : ∀ entry ∈ block, entry.AssignsBare) :
    ofRoot (block.map unformatted) = ofRoot block := by
  rw [ofRoot, ofRoot,
    ofEntryList_unformatted fun entry member => (of_unformatted (assigns entry member)).2]

end Value

end InitializerJson
