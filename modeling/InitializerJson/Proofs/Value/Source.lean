import InitializerJson.Proofs.Expression.PrintedReading
import InitializerJson.Proofs.Value.BlockShape

namespace InitializerJson

open Lexical

/-!
# Values as source text

How a value is written as an expression: plain values as literals, lists and
objects as creations of two given types.  The expression is canonical, and it
stands for the value it was written for.
-/

/-- The types that the creations of lists and objects name. -/
structure ContainerTypes where
  list : String
  object : String

/-- The names of the types are types as written. -/
structure ContainerTypes.AreTypes
    (types : ContainerTypes) :
    Prop where
  list : TypeText .alone types.list.toList
  object : TypeText .alone types.object.toList

/-- A creation without arguments, its entries already written. -/
def creationText
    (type : String)
    (entries : List (List Char)) :
    List Char :=
  ['n', 'e', 'w', ' '] ++ (type.toList ++ ' ' :: inBraces entries)

/-- An assignment to a name, its value already written. -/
def assignmentText
    (name : String)
    (value : List Char) :
    List Char :=
  name.toList ++ ([' ', '=', ' '] ++ value)

/-- A number that is written by its text: bounded, or the text of some literal. -/
def Number.IsWritable : Number → Prop
  | integer value => value.natAbs < 2 ^ 64
  | real text => IsOfLiteral (real text)

/-- Names of members: words that are not reserved, each given once. -/
structure AreKeys
    {α : Type}
    (members : List (String × α)) :
    Prop where
  nodup : (memberNames members).Nodup
  isWord : ∀ name ∈ memberNames members, IsWord name.toList
  unreserved : ∀ name ∈ memberNames members, isReserved name = false

namespace Value

mutual

/-- A value as source text. -/
def source
    (types : ContainerTypes) :
    Value → List Char
  | null => ['n', 'u', 'l', 'l']
  | bool true => ['t', 'r', 'u', 'e']
  | bool false => ['f', 'a', 'l', 's', 'e']
  | number value => value.text.toList
  | string value => regularLiteral value.toList
  | list items => creationText types.list (itemSources types items)
  | object members => creationText types.object (memberSources types members)

/-- The items of a list as source texts. -/
def itemSources
    (types : ContainerTypes) :
    List Value → List (List Char)
  | [] => []
  | item :: items => source types item :: itemSources types items

/-- The members of an object as source texts. -/
def memberSources
    (types : ContainerTypes) :
    List (String × Value) → List (List Char)
  | [] => []
  | (name, value) :: members =>
      assignmentText name (source types value) :: memberSources types members

end

mutual

/-- Numbers are writable, and objects have members under different unreserved words. -/
def IsWritable : Value → Prop
  | null => True
  | bool _ => True
  | number value => value.IsWritable
  | string _ => True
  | list items => ItemsAreWritable items
  | object members => members ≠ [] ∧ AreKeys members ∧ MembersAreWritable members

/-- Every item is writable. -/
def ItemsAreWritable : List Value → Prop
  | [] => True
  | item :: items => item.IsWritable ∧ ItemsAreWritable items

/-- The value of every member is writable. -/
def MembersAreWritable : List (String × Value) → Prop
  | [] => True
  | (_, value) :: members => value.IsWritable ∧ MembersAreWritable members

end

mutual

/-- The layers that the expression of a value opens: two for an object, one for a list. -/
def layers : Value → Nat
  | list items => itemLayers items + 1
  | object members => memberLayers members + 1
  | _ => 1

/-- The greatest number of layers among some items. -/
def itemLayers : List Value → Nat
  | [] => 0
  | item :: items => max (layers item) (itemLayers items)

/-- The greatest number of layers among the assignments of some members. -/
def memberLayers : List (String × Value) → Nat
  | [] => 0
  | (_, value) :: members => max (layers value + 1) (memberLayers members)

end

mutual

/-- The expression of a value. -/
def toExpression
    (types : ContainerTypes) :
    Value → Expression
  | null => .literal .null
  | bool value => .literal (.bool value)
  | number value => .literal (.number value)
  | string value => .literal (.string value)
  | list items => .creation types.list [] (some (itemExpressions types items))
  | object members => .creation types.object [] (some (memberExpressions types members))

/-- The expressions of the items of a list. -/
def itemExpressions
    (types : ContainerTypes) :
    List Value → List Expression
  | [] => []
  | item :: items => toExpression types item :: itemExpressions types items

/-- The assignments of the members of an object. -/
def memberExpressions
    (types : ContainerTypes) :
    List (String × Value) → List Expression
  | [] => []
  | (name, value) :: members =>
      .assignment name true (toExpression types value) :: memberExpressions types members

end

/-- Items are writable together when each one is. -/
theorem itemsAreWritable_iff
    {items : List Value} :
    ItemsAreWritable items ↔ ∀ item ∈ items, item.IsWritable := by
  induction items with
  | nil => simp [ItemsAreWritable]
  | cons item items hypothesis => simp [ItemsAreWritable, hypothesis]

/-- Members are writable together when the value of each one is. -/
theorem membersAreWritable_iff
    {members : List (String × Value)} :
    MembersAreWritable members ↔ ∀ member ∈ members, member.2.IsWritable := by
  induction members with
  | nil => simp [MembersAreWritable]
  | cons member members hypothesis =>
      rw [MembersAreWritable, hypothesis, List.forall_mem_cons]

/-- What holds of plain writable values and passes to containers holds of every writable value. -/
theorem writableInduction
    {motive : Value → Prop}
    (null : motive null)
    (bool : ∀ value, motive (bool value))
    (number : ∀ value, value.IsWritable → motive (number value))
    (string : ∀ value, motive (string value))
    (list : ∀ items, (∀ item ∈ items, motive item) → motive (list items))
    (object :
      ∀ members,
        members ≠ [] →
        AreKeys members →
        (∀ member ∈ members, motive member.2) →
        motive (object members))
    {value : Value}
    (writable : value.IsWritable) :
    motive value := by
  induction value using nestedInduction with
  | null => exact null
  | bool value => exact bool value
  | number value => exact number value writable
  | string value => exact string value
  | list items hypothesis =>
      apply list
      intro item member
      exact hypothesis item member (itemsAreWritable_iff.mp writable item member)
  | object members hypothesis =>
      obtain ⟨nonempty, keys, values⟩ := writable
      apply object members nonempty keys
      intro member present
      exact hypothesis member present (membersAreWritable_iff.mp values member present)

/-- The expressions of items are those of each one, in their order. -/
theorem itemExpressions_eq_map
    (types : ContainerTypes)
    (items : List Value) :
    itemExpressions types items = items.map (toExpression types) := by
  induction items with
  | nil => rfl
  | cons item items hypothesis => rw [itemExpressions, hypothesis, List.map_cons]

/-- The expressions of members are assignments to their names, in their order. -/
theorem memberExpressions_eq_map
    (types : ContainerTypes)
    (members : List (String × Value)) :
    memberExpressions types members =
      members.map fun member => .assignment member.1 true (toExpression types member.2) := by
  induction members with
  | nil => rfl
  | cons member members hypothesis => rw [memberExpressions, hypothesis, List.map_cons]

/-- The expressions of items that are printed as the items are printed as all of them. -/
theorem printAll_itemExpressions
    {types : ContainerTypes}
    {items : List Value}
    (prints : ∀ item ∈ items, (toExpression types item).print = source types item) :
    Expression.printAll (itemExpressions types items) = itemSources types items := by
  induction items with
  | nil => rfl
  | cons item items hypothesis =>
      obtain ⟨first, others⟩ := List.forall_mem_cons.mp prints
      rw [itemExpressions, Expression.printAll, first, hypothesis others, itemSources]

/-- The assignments of members that are printed as the members are printed as all of them. -/
theorem printAll_memberExpressions
    {types : ContainerTypes}
    {members : List (String × Value)}
    (prints :
      ∀ member ∈ members, (toExpression types member.2).print = source types member.2) :
    Expression.printAll (memberExpressions types members) = memberSources types members := by
  induction members with
  | nil => rfl
  | cons member members hypothesis =>
      obtain ⟨first, others⟩ := List.forall_mem_cons.mp prints
      rw [memberExpressions, Expression.printAll, Expression.print, first, hypothesis others,
        memberSources]
      rfl

/-- The expression of a value is printed as the value's source text. -/
theorem print_toExpression
    (types : ContainerTypes)
    (value : Value) :
    (toExpression types value).print = source types value := by
  induction value using nestedInduction with
  | null => rfl
  | bool value => cases value <;> rfl
  | number value => rfl
  | string value => rfl
  | list items hypothesis =>
      rw [toExpression, Expression.print, Expression.printBlock,
        printAll_itemExpressions hypothesis, source]
      rfl
  | object members hypothesis =>
      rw [toExpression, Expression.print, Expression.printBlock,
        printAll_memberExpressions hypothesis, source]
      rfl

/-- A writable number is written by some literal. -/
theorem isOfLiteral_of_isWritable
    {number : Number}
    (writable : number.IsWritable) :
    number.IsOfLiteral := by
  cases number with
  | integer value => exact ⟨_, _, (written_integer writable).value⟩
  | real text => exact writable

/-- The expressions of items are canonical when each one is. -/
theorem canonical_of_mem_itemExpressions
    {types : ContainerTypes}
    {items : List Value}
    (each : ∀ item ∈ items, (toExpression types item).Canonical) :
    ∀ expression ∈ itemExpressions types items, expression.Canonical := by
  rw [itemExpressions_eq_map, List.forall_mem_map]
  exact each

/-- The assignments of members are canonical when their values are. -/
theorem canonical_of_mem_memberExpressions
    {types : ContainerTypes}
    {members : List (String × Value)}
    (keys : AreKeys members)
    (each : ∀ member ∈ members, (toExpression types member.2).Canonical) :
    ∀ expression ∈ memberExpressions types members, expression.Canonical := by
  rw [memberExpressions_eq_map, List.forall_mem_map]
  intro member present
  have named : member.1 ∈ memberNames members :=
    List.mem_map_of_mem present
  have chain : ChainText true member.1.toList :=
    .word (keys.isWord _ named) (by simpa using keys.unreserved _ named)
  exact .assignment chain (each member present)

/-- The expression of a writable value is canonical. -/
theorem canonical_toExpression
    {types : ContainerTypes}
    (areTypes : types.AreTypes)
    {value : Value}
    (writable : value.IsWritable) :
    (toExpression types value).Canonical := by
  refine writableInduction
    (motive := fun value => (toExpression types value).Canonical)
    ?null ?bool ?number ?string ?list ?object writable
  case null => exact .literal .null
  case bool =>
    intro value
    exact .literal (.bool value)
  case number =>
    intro value isWritable
    exact .literal (.number (isOfLiteral_of_isWritable isWritable))
  case string =>
    intro value
    exact .literal (.string value)
  case list =>
    intro items each
    refine .creation areTypes.list (List.forall_mem_nil _) ?_
    intro entries shape
    cases shape
    exact canonical_of_mem_itemExpressions each
  case object =>
    intro members _ keys each
    refine .creation areTypes.object (List.forall_mem_nil _) ?_
    intro entries shape
    cases shape
    exact canonical_of_mem_memberExpressions keys each

/-- The expressions of items open as many layers as the items when each one does. -/
theorem layersOfAll_itemExpressions
    {types : ContainerTypes}
    {items : List Value}
    (agree : ∀ item ∈ items, (toExpression types item).layers = item.layers) :
    Expression.layersOfAll (itemExpressions types items) = itemLayers items := by
  induction items with
  | nil => rfl
  | cons item items hypothesis =>
      obtain ⟨first, others⟩ := List.forall_mem_cons.mp agree
      rw [itemExpressions, Expression.layersOfAll, first, hypothesis others, itemLayers]

/-- The assignments of members open as many layers as the members when each value does. -/
theorem layersOfAll_memberExpressions
    {types : ContainerTypes}
    {members : List (String × Value)}
    (agree : ∀ member ∈ members, (toExpression types member.2).layers = member.2.layers) :
    Expression.layersOfAll (memberExpressions types members) = memberLayers members := by
  induction members with
  | nil => rfl
  | cons member members hypothesis =>
      obtain ⟨first, others⟩ := List.forall_mem_cons.mp agree
      rw [memberExpressions, Expression.layersOfAll, Expression.layers, first,
        hypothesis others, memberLayers]

/-- The expression of a value opens as many layers as the value. -/
theorem layers_toExpression
    (types : ContainerTypes)
    (value : Value) :
    (toExpression types value).layers = value.layers := by
  induction value using nestedInduction with
  | null => rfl
  | bool value => rfl
  | number value => rfl
  | string value => rfl
  | list items hypothesis =>
      rw [toExpression, Expression.layers, Expression.layersOfBlock,
        layersOfAll_itemExpressions hypothesis, layers, Expression.layersOfAll, Nat.zero_max]
  | object members hypothesis =>
      rw [toExpression, Expression.layers, Expression.layersOfBlock,
        layersOfAll_memberExpressions hypothesis, layers, Expression.layersOfAll, Nat.zero_max]

/-- The expression of a value is a plain entry. -/
theorem ofEntry_toExpression
    (types : ContainerTypes)
    (value : Value) :
    ofEntry (toExpression types value) = .plain (ofExpression (toExpression types value)) := by
  cases value <;> rfl

/-- The expressions of items contribute the items when they stand for them. -/
theorem ofEntryList_itemExpressions
    {types : ContainerTypes}
    {items : List Value}
    (stands : ∀ item ∈ items, ofExpression (toExpression types item) = item) :
    ofEntryList (itemExpressions types items) = items.map Entry.plain := by
  rw [ofEntryList_eq_map, itemExpressions_eq_map, List.map_map]
  apply List.map_congr_left
  intro item member
  rw [Function.comp_apply, ofEntry_toExpression, stands item member]

/-- The assignments of members contribute the members when their values stand for them. -/
theorem ofEntryList_memberExpressions
    {types : ContainerTypes}
    {members : List (String × Value)}
    (stands : ∀ member ∈ members, ofExpression (toExpression types member.2) = member.2) :
    ofEntryList (memberExpressions types members) =
      members.map fun member => .keyed member.1 member.2 := by
  rw [ofEntryList_eq_map, memberExpressions_eq_map, List.map_map]
  apply List.map_congr_left
  intro member present
  rw [Function.comp_apply, ofEntry, stands member present]

/-- The expression of a writable value stands for the value. -/
theorem ofExpression_toExpression
    (types : ContainerTypes)
    {value : Value}
    (writable : value.IsWritable) :
    ofExpression (toExpression types value) = value := by
  refine writableInduction
    (motive := fun value => ofExpression (toExpression types value) = value)
    rfl (fun _ => rfl) (fun _ _ => rfl) (fun _ => rfl) ?list ?object writable
  case list =>
    intro items stands
    rw [toExpression, ofExpression, ofEntryList_itemExpressions stands, ofBlock_plain]
  case object =>
    intro members nonempty keys stands
    rw [toExpression, ofExpression, ofEntryList_memberExpressions stands,
      ofBlock_keyed nonempty, ofEntries_of_nodup keys.nodup]

/-- The assignments of writable members stand for the object of the members. -/
theorem ofRoot_memberExpressions
    (types : ContainerTypes)
    {members : List (String × Value)}
    (keys : AreKeys members)
    (writable : MembersAreWritable members) :
    ofRoot (memberExpressions types members) = object members := by
  have stands :
      ∀ member ∈ members, ofExpression (toExpression types member.2) = member.2 := by
    intro member present
    exact ofExpression_toExpression types (membersAreWritable_iff.mp writable member present)
  have reads :
      ∀ member : String × Value, (Entry.keyed member.1 member.2).keyed? = some member :=
    fun _ => rfl
  rw [ofRoot, ofEntryList_memberExpressions stands, List.filterMap_map]
  simp only [Function.comp_def, reads, List.filterMap_some]
  exact ofEntries_of_nodup keys.nodup

end Value

end InitializerJson
