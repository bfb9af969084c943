import InitializerJson.Proofs.Value.Height
import InitializerJson.Proofs.Value.Rendering

namespace InitializerJson.Value

/-!
# Limited levels of recursion

The way from an expression to its value goes down from an expression to its parts,
and the writing of a value goes down to its items and members.  Here both are given
a number of levels, and fail where these are used up.  They do not fail when there
are as many levels as what they are given is high, and then have the same result.
-/

mutual

/-- The value of an expression, if some levels of expressions are enough to find it. -/
def ofExpressionWithin? : (levels : Nat) → Expression → Option Value
  | 0, _ => none
  | _ + 1, .literal literal => some (ofLiteral literal)
  | levels + 1, .invocation _ (argument :: _) => ofExpressionWithin? levels argument
  | levels + 1, .creation _ _ (some block) =>
      (block.mapM (ofEntryWithin? levels)).map ofBlock
  | levels + 1, .targetTypedCreation arguments none =>
      (arguments.mapM (ofExpressionWithin? levels)).map list
  | levels + 1, .targetTypedCreation _ (some block) =>
      (block.mapM (ofEntryWithin? levels)).map ofKeyedBlock
  | _ + 1, _ => some null

/-- What an expression contributes as an entry, if some levels are enough to find it. -/
def ofEntryWithin? : (levels : Nat) → Expression → Option Entry
  | 0, _ => none
  | _ + 1, .literal literal => some (.plain (ofLiteral literal))
  | _ + 1, .creation _ _ none => some (.plain null)
  | levels + 1, .creation _ _ (some block) =>
      (block.mapM (ofEntryWithin? levels)).map fun entries => .plain (ofBlock entries)
  | levels + 1, .targetTypedCreation arguments none =>
      (arguments.mapM (ofExpressionWithin? levels)).map fun values => .plain (list values)
  | levels + 1, .targetTypedCreation _ (some block) =>
      (block.mapM (ofEntryWithin? levels)).map fun entries => .plain (ofKeyedBlock entries)
  | levels + 1, .assignment target _ value =>
      (ofExpressionWithin? levels value).map (.keyed target)
  | levels + 1, .initializer [key, value] =>
      (ofExpressionWithin? levels key).bind fun key =>
        (ofExpressionWithin? levels value).map (.pair key)
  | _ + 1, _ => some .other

end

/-- The object of a block, if some levels are enough for each of its entries. -/
def ofRootWithin?
    (levels : Nat)
    (block : List Expression) :
    Option Value :=
  (block.mapM (ofEntryWithin? levels)).map fun entries =>
    ofEntries (entries.filterMap Entry.keyed?)

/-- The JSON text of a value inside `depth` containers, if some levels are enough for it. -/
def writeWithin?
    (layout : Layout) :
    (levels depth : Nat) → Value → Option (List Char)
  | 0, _, _ => none
  | levels + 1, depth, list items =>
      (items.mapM (writeWithin? layout levels (depth + 1))).map
        (layout.enclose depth '[' ']')
  | levels + 1, depth, object members =>
      (members.mapM fun member =>
        (writeWithin? layout levels (depth + 1) member.2).map (layout.member member.1)).map
        (layout.enclose depth '{' '}')
  | _ + 1, depth, value => some (write layout depth value)

/-- As many levels as an expression is high are enough for its value and as an entry. -/
theorem within?_of_height_le
    {expression : Expression}
    {levels : Nat}
    (enough : expression.height ≤ levels) :
    ofExpressionWithin? levels expression = some (ofExpression expression) ∧
      ofEntryWithin? levels expression = some (ofEntry expression) := by
  induction levels generalizing expression with
  | zero => exact absurd enough (Nat.not_le_of_lt expression.height_pos)
  | succ levels hypothesis =>
      have parts := fun part isPart =>
        hypothesis (Expression.height_le_succ_iff.mp enough part isPart)
      have block : ∀ entries : List Expression, (∀ entry ∈ entries, entry ∈ expression.parts) →
          entries.mapM (ofEntryWithin? levels) = some (ofEntryList entries) := by
        intro entries areParts
        rw [ofEntryList_eq_map]
        exact mapM_eq_some_map fun entry member => (parts entry (areParts entry member)).2
      cases expression with
      | literal | name | index | unsupported => exact ⟨rfl, rfl⟩
      | invocation callee arguments =>
          cases arguments with
          | nil => exact ⟨rfl, rfl⟩
          | cons argument others => exact ⟨(parts argument List.mem_cons_self).1, rfl⟩
      | creation type arguments initializer =>
          cases initializer with
          | none => exact ⟨rfl, rfl⟩
          | some entries =>
              have entries := block entries fun entry => List.mem_append_right arguments
              simp only [ofExpressionWithin?, ofEntryWithin?, ofExpression, ofEntry, entries,
                Option.map_some, and_self]
      | targetTypedCreation arguments initializer =>
          cases initializer with
          | none =>
              have values :
                  arguments.mapM (ofExpressionWithin? levels) = some (ofExpressions arguments) := by
                rw [ofExpressions_eq_map]
                exact mapM_eq_some_map fun argument member =>
                  (parts argument (List.mem_append_left _ member)).1
              simp only [ofExpressionWithin?, ofEntryWithin?, ofExpression, ofEntry, values,
                Option.map_some, and_self]
          | some entries =>
              have entries := block entries fun entry => List.mem_append_right arguments
              simp only [ofExpressionWithin?, ofEntryWithin?, ofExpression, ofEntry, entries,
                Option.map_some, and_self]
      | assignment target bare value =>
          refine ⟨rfl, ?_⟩
          simp only [ofEntryWithin?, ofEntry, (parts value List.mem_cons_self).1, Option.map_some]
      | initializer entries =>
          refine ⟨rfl, ?_⟩
          rcases entries with _ | ⟨key, _ | ⟨value, _ | ⟨third, others⟩⟩⟩
          · rfl
          · rfl
          · simp only [ofEntryWithin?, ofEntry, Option.bind_some, Option.map_some,
              (parts key List.mem_cons_self).1,
              (parts value (List.mem_cons_of_mem key List.mem_cons_self)).1]
          · rfl

/-- As many levels as the entries of a block are high are enough for its object. -/
theorem ofRootWithin?_of_height_le
    {block : List Expression}
    {levels : Nat}
    (enough : ∀ entry ∈ block, entry.height ≤ levels) :
    ofRootWithin? levels block = some (ofRoot block) := by
  rw [ofRootWithin?, ofRoot, ofEntryList_eq_map,
    mapM_eq_some_map fun entry member => (within?_of_height_le (enough entry member)).2]
  rfl

/-- As many levels as a value is high are enough to write it. -/
theorem writeWithin?_of_height_le
    {value : Value}
    {levels : Nat}
    (enough : value.height ≤ levels)
    (layout : Layout)
    (depth : Nat) :
    writeWithin? layout levels depth value = some (write layout depth value) := by
  induction levels generalizing value depth with
  | zero => exact absurd enough (Nat.not_le_of_lt value.height_pos)
  | succ levels hypothesis =>
      cases value with
      | null | bool | number | string => rfl
      | list items =>
          have written :
              items.mapM (writeWithin? layout levels (depth + 1)) =
                some (writeItems layout (depth + 1) items) := by
            rw [writeItems_eq_map]
            exact mapM_eq_some_map fun item member =>
              hypothesis (height_list_le_iff.mp enough item member) (depth + 1)
          rw [writeWithin?, written, write]
          rfl
      | object members =>
          have written :
              (members.mapM fun member =>
                  (writeWithin? layout levels (depth + 1) member.2).map
                    (layout.member member.1)) =
                some (writeMembers layout (depth + 1) members) := by
            rw [writeMembers_eq_map]
            refine mapM_eq_some_map fun member inObject => ?_
            rw [hypothesis (height_object_le_iff.mp enough member inObject) (depth + 1)]
            rfl
          rw [writeWithin?, written, write]
          rfl

end InitializerJson.Value
