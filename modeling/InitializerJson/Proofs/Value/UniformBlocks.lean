import InitializerJson.Extraction.Lookup
import InitializerJson.Proofs.Value.GroupedPairs

namespace InitializerJson

/-!
# Blocks whose entries share a shape

Three shapes of entries make data of a block, and the shape of an entry can be seen from
its expression alone.  A block of one shape stands for the list of its values, for the
object of its assignments, or for the object of the texts of its groups; a block in which
no shape is shared stands for null.

Behind a `new` without a type only assignments make data, as they do in a root block.  A
block without entries is none of assignments there, though it is one at the root.
-/

/-- The shapes of entries that make data of a block. -/
inductive Shape where
  /-- A literal or a creation. -/
  | plain
  /-- An assignment. -/
  | keyed
  /-- A group of two. -/
  | paired
  deriving DecidableEq

/-- The shape of an expression as an entry, if it has one of those that make data. -/
def Expression.shape? : Expression → Option Shape
  | literal _ => some .plain
  | creation _ _ _ => some .plain
  | targetTypedCreation _ _ => some .plain
  | assignment _ _ _ => some .keyed
  | initializer [_, _] => some .paired
  | _ => none

/-- All entries of a block have one shape. -/
def IsUniform
    (shape : Shape)
    (block : List Expression) :
    Prop :=
  ∀ entry ∈ block, entry.shape? = some shape

/-- No shape is shared by all entries of a block. -/
def IsMixed
    (block : List Expression) :
    Prop :=
  ∀ shape, ∃ entry ∈ block, entry.shape? ≠ some shape

namespace Expression

/-- An entry with the shape of an assignment is one. -/
theorem exists_assignment
    {entry : Expression}
    (keyed : entry.shape? = some .keyed) :
    ∃ target bare value, entry = .assignment target bare value := by
  cases entry with
  | assignment target bare value => exact ⟨target, bare, value, rfl⟩
  | initializer entries => rcases entries with _ | ⟨_, _ | ⟨_, _ | _⟩⟩ <;> cases keyed
  | _ => cases keyed

/-- An entry with the shape of a group of two is one. -/
theorem exists_group
    {entry : Expression}
    (paired : entry.shape? = some .paired) :
    ∃ pair, entry = group pair := by
  cases entry with
  | initializer entries =>
      rcases entries with _ | ⟨key, _ | ⟨value, _ | _⟩⟩
      case cons.cons.nil => exact ⟨(key, value), rfl⟩
      all_goals cases paired
  | _ => cases paired

end Expression

namespace Value

/-! ## What an entry contributes, by its shape -/

/-- An entry contributes a value where it is a literal or a creation. -/
theorem plain?_ofEntry
    (entry : Expression) :
    (ofEntry entry).plain? =
      if entry.shape? = some .plain then some (ofExpression entry) else none := by
  cases entry with
  | creation type arguments block | targetTypedCreation arguments block => cases block <;> rfl
  | initializer entries => rcases entries with _ | ⟨key, _ | ⟨value, _ | ⟨third, others⟩⟩⟩ <;> rfl
  | literal | invocation | assignment | name | index | unsupported => rfl

/-- An entry contributes a member where it is an assignment. -/
theorem keyed?_ofEntry_eq_none
    {entry : Expression}
    (notKeyed : entry.shape? ≠ some .keyed) :
    (ofEntry entry).keyed? = none := by
  rw [keyed?_ofEntry]
  cases entry with
  | assignment => exact absurd rfl notKeyed
  | _ => rfl

/-- An entry contributes two values where it is a group of two. -/
theorem pair?_ofEntry_eq_none
    {entry : Expression}
    (notPaired : entry.shape? ≠ some .paired) :
    (ofEntry entry).pair? = none := by
  cases entry with
  | creation type arguments block | targetTypedCreation arguments block => cases block <;> rfl
  | initializer entries =>
      rcases entries with _ | ⟨key, _ | ⟨value, _ | ⟨third, others⟩⟩⟩
      case cons.cons.nil => exact absurd rfl notPaired
      all_goals rfl
  | literal | invocation | assignment | name | index | unsupported => rfl

/-! ## Blocks of one shape -/

section Uniform

variable
  {block : List Expression}

/-- A block of literals and creations stands for the list of their values. -/
theorem ofBlock_of_plain
    (plain : IsUniform .plain block) :
    ofBlock (ofEntryList block) = list (block.map ofExpression) := by
  have values : block.mapM (fun entry => (ofEntry entry).plain?) =
      some (block.map ofExpression) :=
    mapM_eq_some_map fun entry member => by rw [plain?_ofEntry, if_pos (plain entry member)]
  rw [ofBlock, ofEntryList_eq_map, List.mapM_map]
  simp only [Function.comp_def, values]

/-- The entries of a block of assignments contribute what is assigned. -/
theorem ofEntryList_of_keyed
    (keyed : IsUniform .keyed block) :
    ofEntryList block =
      (block.filterMap assigned?).map fun member => .keyed member.1 member.2 := by
  induction block with
  | nil => rfl
  | cons entry others hypothesis =>
      obtain ⟨isKeyed, othersKeyed⟩ := List.forall_mem_cons.mp keyed
      obtain ⟨target, bare, value, rfl⟩ := Expression.exists_assignment isKeyed
      rw [ofEntryList, hypothesis othersKeyed]
      rfl

/-- A block of assignments, of which there is one, stands for the object of them. -/
theorem ofBlock_of_keyed
    (keyed : IsUniform .keyed block)
    (nonempty : block ≠ []) :
    ofBlock (ofEntryList block) = ofEntries (block.filterMap assigned?) := by
  obtain ⟨first, others, rfl⟩ := List.exists_cons_of_ne_nil nonempty
  obtain ⟨target, bare, value, rfl⟩ := Expression.exists_assignment (keyed first (by simp))
  rw [ofEntryList_of_keyed keyed]
  exact ofBlock_keyed (List.cons_ne_nil _ _)

/-- The same holds where a block must consist of assignments. -/
theorem ofKeyedBlock_of_keyed
    (keyed : IsUniform .keyed block)
    (nonempty : block ≠ []) :
    ofKeyedBlock (ofEntryList block) = ofEntries (block.filterMap assigned?) := by
  obtain ⟨first, others, rfl⟩ := List.exists_cons_of_ne_nil nonempty
  have notPlain : (first :: others).mapM (fun entry => (ofEntry entry).plain?) = none :=
    mapM_eq_none_of_mem List.mem_cons_self
      (by rw [plain?_ofEntry, keyed first List.mem_cons_self]; rfl)
  have reads : ∀ member : String × Value, (Entry.keyed member.1 member.2).keyed? = some member :=
    fun _ => rfl
  rw [ofKeyedBlock, ofEntryList_eq_map, List.mapM_map]
  simp only [Function.comp_def, notPlain]
  rw [← ofEntryList_eq_map, ofEntryList_of_keyed keyed]
  simp only [mapM_map_eq_some reads]

/-- A block of groups of two is given by its pairs. -/
theorem exists_pairs
    (paired : IsUniform .paired block) :
    ∃ pairs : List (Expression × Expression), block = pairs.map Expression.group := by
  induction block with
  | nil => exact ⟨[], rfl⟩
  | cons entry others hypothesis =>
      obtain ⟨isPaired, othersPaired⟩ := List.forall_mem_cons.mp paired
      obtain ⟨pair, rfl⟩ := Expression.exists_group isPaired
      obtain ⟨pairs, rfl⟩ := hypothesis othersPaired
      exact ⟨pair :: pairs, rfl⟩

/-- A block in which no shape is shared stands for null. -/
theorem ofBlock_of_mixed
    (mixed : IsMixed block) :
    ofBlock (ofEntryList block) = null := by
  obtain ⟨first, inPlain, notPlain⟩ := mixed .plain
  obtain ⟨second, inKeyed, notKeyed⟩ := mixed .keyed
  obtain ⟨third, inPaired, notPaired⟩ := mixed .paired
  have noValues : block.mapM (fun entry => (ofEntry entry).plain?) = none :=
    mapM_eq_none_of_mem inPlain (by rw [plain?_ofEntry, if_neg notPlain])
  have noMembers : block.mapM (fun entry => (ofEntry entry).keyed?) = none :=
    mapM_eq_none_of_mem inKeyed (keyed?_ofEntry_eq_none notKeyed)
  have noPairs : block.mapM (fun entry => (ofEntry entry).pair?) = none :=
    mapM_eq_none_of_mem inPaired (pair?_ofEntry_eq_none notPaired)
  simp only [ofBlock, ofEntryList_eq_map, List.mapM_map, Function.comp_def, noValues, noMembers,
    noPairs]

/-- A block that must consist of assignments stands for null where one entry is none. -/
theorem ofKeyedBlock_of_mem
    {entry : Expression}
    (member : entry ∈ block)
    (notKeyed : entry.shape? ≠ some .keyed) :
    ofKeyedBlock (ofEntryList block) = null := by
  have noMembers : block.mapM (fun entry => (ofEntry entry).keyed?) = none :=
    mapM_eq_none_of_mem member (keyed?_ofEntry_eq_none notKeyed)
  simp only [ofKeyedBlock, ofEntryList_eq_map, List.mapM_map, Function.comp_def, noMembers]
  split <;> rfl

end Uniform

/--
What a block stands for by the shape of its entries: the list of all their values in
order, a map with the latest value for each target, or a map of the texts of groups.
-/
inductive StandsFor : Shape → List Expression → Value → Prop where
  | plain
      {block : List Expression} :
      StandsFor .plain block (.list (block.map ofExpression))
  | keyed
      {block : List Expression}
      {members : Members Value}
      (holds : members.HoldsLatest (block.filterMap assigned?)) :
      StandsFor .keyed block (.object members.entries)
  | paired
      {pairs : List (Expression × Expression)}
      {members : Members Value}
      (holds : members.HoldsGroups pairs) :
      StandsFor .paired (pairs.map Expression.group) (.object members.entries)

/-- A typed creation with a block of one shape stands for what the shape says. -/
theorem standsFor_creation
    {shape : Shape}
    {block : List Expression}
    (uniform : IsUniform shape block)
    (nonempty : block ≠ [])
    (type : String)
    (arguments : List Expression) :
    StandsFor shape block (ofExpression (.creation type arguments (some block))) := by
  cases shape with
  | plain =>
      rw [ofExpression, ofBlock_of_plain uniform]
      exact .plain
  | keyed =>
      rw [ofExpression, ofBlock_of_keyed uniform nonempty]
      exact .keyed (Members.holdsLatest_ofList _)
  | paired =>
      obtain ⟨pairs, rfl⟩ := exists_pairs uniform
      rw [ofExpression_groups type arguments (by simpa using nonempty)]
      exact .paired (Members.holdsGroups_ofList pairs)

end Value

open Value

/--
Behind a `new` without a type, a block of assignments makes the map that it makes at the
root, with the names of the targets in their first order and the last value for each, as
long as there is an assignment in it.  A block without entries stands for null there.
-/
theorem ofExpression_targetTyped_keyed
    (arguments : List Expression)
    {block : List Expression}
    (keyed : IsUniform .keyed block) :
    ∃ members : Members Value,
      ofRoot block = .object members.entries ∧
        members.HoldsLatest (block.filterMap assigned?) ∧
        ofExpression (.targetTypedCreation arguments (some block)) =
          if block.isEmpty then .null else .object members.entries := by
  refine ⟨Members.ofList (block.filterMap assigned?), ofRoot_eq block,
    Members.holdsLatest_ofList _, ?_⟩
  rw [ofExpression]
  split
  · next empty =>
      rw [List.isEmpty_iff.mp empty]
      rfl
  · next filled => exact ofKeyedBlock_of_keyed keyed (by simpa using filled)

/-- A target that is assigned twice keeps its place and has the last value. -/
theorem ofExpression_targetTyped_keyed_repeated :
    ∃ members : Members Value,
      ofExpression (.targetTypedCreation [] (some [
          .assignment "A" true (.literal (.bool true)),
          .assignment "B" true (.name "b"),
          .assignment "A" true (.literal (.bool false))])) = .object members.entries ∧
        members.names = ["A", "B"] ∧
        members.get? "A" = some (.bool false) := by
  have keyed :
      IsUniform .keyed [.assignment "A" true (.literal (.bool true)),
        .assignment "B" true (.name "b"), .assignment "A" true (.literal (.bool false))] := by
    simp [IsUniform, Expression.shape?]
  obtain ⟨members, _, holds, value⟩ := ofExpression_targetTyped_keyed [] keyed
  exact ⟨members, value, holds.names.trans (by decide), (holds.values "A").trans rfl⟩

/-- A block without entries is an empty object at the root, and null behind `new()`. -/
theorem extractJson_emptyTargetTyped :
    extractJson "B=new T\x7b\x7d;" ⟨"B", .assignment, .compact⟩ =
        .ok (.found "\x7b\x7d") ∧
      extractJson "B=new T\x7bX=new()\x7b\x7d\x7d;" ⟨"B", .assignment, .compact⟩ =
        .ok (.found "\x7b\"X\":null\x7d") ∧
      ofRoot [] = .object [] ∧
      ofExpression (.targetTypedCreation [] (some [])) = .null := by
  refine ⟨by decide +kernel, by decide +kernel, rfl, rfl⟩

end InitializerJson
