import InitializerJson.Proofs.Expression.Height
import InitializerJson.Proofs.Value.BlockShape

namespace InitializerJson

/-!
# The height of values

The height of a value counts the values on the longest path into it, as that of an
expression does.  A value is never higher than the expression that it stands for.

Both the way from expressions to values and the writing of values go down by one
level at a time.  With a limit on the levels they may fail, but the height of what
they are given is limit enough.
-/

namespace Value

mutual

/-- The number of values on the longest path from a value into its items and members. -/
def height : Value → Nat
  | list items => heightItems items + 1
  | object members => heightMembers members + 1
  | _ => 1

/-- The height of the highest of some items. -/
def heightItems : List Value → Nat
  | [] => 0
  | item :: items => max (height item) (heightItems items)

/-- The height of the highest of some members. -/
def heightMembers : List (String × Value) → Nat
  | [] => 0
  | (_, value) :: members => max (height value) (heightMembers members)

end

/-- A list is within a bound when its items are one lower. -/
theorem height_list_le_iff
    {items : List Value}
    {bound : Nat} :
    (list items).height ≤ bound + 1 ↔ ∀ item ∈ items, item.height ≤ bound := by
  rw [height, Nat.add_le_add_iff_right]
  induction items with
  | nil => simp [heightItems]
  | cons item items hypothesis =>
      rw [heightItems, Nat.max_le, hypothesis, List.forall_mem_cons]

/-- An object is within a bound when its members are one lower. -/
theorem height_object_le_iff
    {members : List (String × Value)}
    {bound : Nat} :
    (object members).height ≤ bound + 1 ↔ ∀ member ∈ members, member.2.height ≤ bound := by
  rw [height, Nat.add_le_add_iff_right]
  induction members with
  | nil => simp [heightMembers]
  | cons member members hypothesis =>
      rw [heightMembers, Nat.max_le, hypothesis, List.forall_mem_cons]

/-- Every value has some height. -/
theorem height_pos
    (value : Value) :
    0 < value.height := by
  cases value <;> exact Nat.succ_pos _

end Value

/-- The values that an entry contributes are within a bound. -/
def Entry.IsWithin
    (bound : Nat) :
    Entry → Prop
  | plain value => value.height ≤ bound
  | keyed _ value => value.height ≤ bound
  -- A group of two contributes a text or null, whatever its halves are.
  | pair _ _ => 1 ≤ bound
  | other => True

/-- What an entry contributes stays within a larger bound. -/
theorem Entry.IsWithin.mono
    {entry : Entry}
    {bound larger : Nat}
    (within : entry.IsWithin bound)
    (enough : bound ≤ larger) :
    entry.IsWithin larger := by
  cases entry with
  | plain | keyed | pair => exact Nat.le_trans within enough
  | other => trivial

/-! ## Values of expressions -/

namespace Value

/-- The object of members within a bound is at most one higher. -/
theorem height_ofEntries_le
    {members : List (String × Value)}
    {bound : Nat}
    (within : ∀ member ∈ members, member.2.height ≤ bound) :
    (ofEntries members).height ≤ bound + 1 :=
  height_object_le_iff.mpr fun member inObject =>
    within member (Members.mem_entries_ofList inObject)

/-- A group of two contributes a value without others inside. -/
theorem height_flatten?
    {pair : Value × Value}
    {member : String × Value}
    (flattened : flatten? pair = some member) :
    member.2.height = 1 := by
  obtain ⟨key, _, rfl⟩ := Option.map_eq_some_iff.mp flattened
  cases pair.2.text? <;> rfl

/-- A value that comes from entries within a bound is at most one higher. -/
theorem BlockForm.height_le
    {entries : List Entry}
    {value : Value}
    {bound : Nat}
    (form : BlockForm entries value)
    (within : ∀ entry ∈ entries, entry.IsWithin bound) :
    value.height ≤ bound + 1 := by
  cases form with
  | list given =>
      exact height_list_le_iff.mpr fun value member => within _ (given value member)
  | keyed given =>
      exact height_ofEntries_le fun member inMembers => within _ (given member inMembers)
  | pairs given =>
      refine height_ofEntries_le fun member inMembers => ?_
      obtain ⟨pair, inEntries, flattened⟩ := given member inMembers
      rw [height_flatten? flattened]
      exact within _ inEntries
  | null => exact Nat.le_add_left 1 bound

/-- The value of a literal holds no others. -/
theorem height_ofLiteral
    (literal : Literal) :
    (ofLiteral literal).height = 1 := by
  cases literal <;> rfl

/-- Expressions within a bound whose entries are within it make entries within it. -/
theorem isWithin_ofEntryList
    {block : List Expression}
    {bound : Nat}
    (within : ∀ expression ∈ block, (ofEntry expression).IsWithin bound) :
    ∀ entry ∈ ofEntryList block, entry.IsWithin bound := by
  rw [ofEntryList_eq_map]
  exact List.forall_mem_map.mpr within

/-- A value is not higher than its expression, nor is what the expression contributes. -/
theorem height_ofExpression_le_and
    (expression : Expression) :
    (ofExpression expression).height ≤ expression.height ∧
      (ofEntry expression).IsWithin expression.height := by
  induction expression using Expression.partsInduction with
  | step whole hypothesis =>
      have parts (part : Expression) (isPart : part ∈ whole.parts) :
          (ofExpression part).height ≤ Expression.heightEach whole.parts ∧
            (ofEntry part).IsWithin (Expression.heightEach whole.parts) := by
        obtain ⟨value, entry⟩ := hypothesis part isPart
        have lower := Expression.heightEach_le_iff.mp (Nat.le_refl _) part isPart
        exact ⟨Nat.le_trans value lower, entry.mono lower⟩
      rw [whole.height_eq]
      generalize Expression.heightEach whole.parts = bound at parts
      have leaf : 1 ≤ bound + 1 :=
        Nat.le_add_left 1 bound
      cases whole with
      | literal literal =>
          have value : (ofLiteral literal).height ≤ bound + 1 :=
            Nat.le_trans (Nat.le_of_eq (height_ofLiteral literal)) leaf
          simp only [ofExpression, ofEntry]
          exact ⟨value, value⟩
      | invocation callee arguments =>
          refine ⟨?_, trivial⟩
          cases arguments with
          | nil => exact leaf
          | cons argument others =>
              simp only [ofExpression]
              exact Nat.le_succ_of_le (parts argument List.mem_cons_self).1
      | creation type arguments block =>
          cases block with
          | none => exact ⟨leaf, leaf⟩
          | some block =>
              have value : (ofBlock (ofEntryList block)).height ≤ bound + 1 :=
                (blockForm_ofBlock _).height_le (isWithin_ofEntryList fun entry member =>
                  (parts entry (List.mem_append_right arguments member)).2)
              simp only [ofExpression, ofEntry]
              exact ⟨value, value⟩
      | targetTypedCreation arguments block =>
          cases block with
          | none =>
              have value : (list (ofExpressions arguments)).height ≤ bound + 1 := by
                rw [ofExpressions_eq_map, height_list_le_iff, List.forall_mem_map]
                exact fun argument member => (parts argument (List.mem_append_left _ member)).1
              simp only [ofExpression, ofEntry]
              exact ⟨value, value⟩
          | some block =>
              have value : (ofKeyedBlock (ofEntryList block)).height ≤ bound + 1 :=
                (blockForm_ofKeyedBlock _).height_le (isWithin_ofEntryList fun entry member =>
                  (parts entry (List.mem_append_right arguments member)).2)
              simp only [ofExpression, ofEntry]
              exact ⟨value, value⟩
      | assignment target bare value =>
          refine ⟨leaf, ?_⟩
          simp only [ofEntry]
          exact Nat.le_succ_of_le (parts value List.mem_cons_self).1
      | initializer entries =>
          refine ⟨leaf, ?_⟩
          rcases entries with _ | ⟨key, _ | ⟨value, _ | ⟨third, others⟩⟩⟩
          · trivial
          · trivial
          · exact leaf
          · trivial
      | name | index | unsupported => exact ⟨leaf, trivial⟩

/-- The value of an expression is not higher than the expression. -/
theorem height_ofExpression_le
    (expression : Expression) :
    (ofExpression expression).height ≤ expression.height :=
  (height_ofExpression_le_and expression).1

/-- The object of a block is at most one higher than the highest entry. -/
theorem height_ofRoot_le
    {block : List Expression}
    {bound : Nat}
    (within : ∀ entry ∈ block, entry.height ≤ bound) :
    (ofRoot block).height ≤ bound + 1 := by
  refine (blockForm_ofRoot block).height_le (isWithin_ofEntryList fun entry member => ?_)
  exact (height_ofExpression_le_and entry).2.mono (within entry member)

end Value

end InitializerJson
