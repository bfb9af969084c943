import InitializerJson.Proofs.Expression.LiteralNumbers
import InitializerJson.Proofs.Value.BlockShape

namespace InitializerJson

/-!
# The numbers in values

A value holds the numbers that stand in it at any level.  All of them were written in
the expression that the value comes from: keys and other plain texts may show numbers,
but hold none, and no number is made up on the way.
-/

/-- A number stands in a value, as the value itself, in an item or under a name. -/
inductive Value.Holds
    (held : Number) :
    Value → Prop where
  | number :
      Holds held (.number held)
  | item
      {items : List Value}
      {item : Value} :
      item ∈ items →
      Holds held item →
      Holds held (.list items)
  | member
      {members : List (String × Value)}
      {member : String × Value} :
      member ∈ members →
      Holds held member.2 →
      Holds held (.object members)

namespace Value

/-- The value of a number holds that number only. -/
theorem holds_number_iff
    {held number : Number} :
    (Value.number number).Holds held ↔ held = number := by
  constructor
  · rintro ⟨⟩
    rfl
  · rintro rfl
    exact .number

/-- A list holds the numbers of its items. -/
theorem holds_list_iff
    {held : Number}
    {items : List Value} :
    (list items).Holds held ↔ ∃ item ∈ items, item.Holds held := by
  constructor
  · intro inList
    cases inList with
    | item member holds => exact ⟨_, member, holds⟩
  · rintro ⟨item, member, holds⟩
    exact .item member holds

/-- An object holds the numbers under its names. -/
theorem holds_object_iff
    {held : Number}
    {members : List (String × Value)} :
    (object members).Holds held ↔ ∃ member ∈ members, member.2.Holds held := by
  constructor
  · intro inObject
    cases inObject with
    | member inMembers holds => exact ⟨_, inMembers, holds⟩
  · rintro ⟨member, inMembers, holds⟩
    exact .member inMembers holds

end Value

/-- A number stands in a value that an entry contributes as it is. -/
def Entry.Holds
    (held : Number) :
    Entry → Prop
  | plain value => value.Holds held
  | keyed _ value => value.Holds held
  | pair _ _ => False
  | other => False

/-! ## Blocks -/

namespace Value

/-- The object of some entries holds no number but theirs. -/
theorem exists_entry_of_holds
    {held : Number}
    {entries : List (String × Value)}
    (holds : (ofEntries entries).Holds held) :
    ∃ entry ∈ entries, entry.2.Holds held := by
  obtain ⟨entry, inMembers, holds⟩ := holds_object_iff.mp holds
  exact ⟨entry, Members.mem_entries_ofList inMembers, holds⟩

/-- What a group of two contributes holds no number. -/
theorem not_holds_of_flatten?
    {held : Number}
    {pair : Value × Value}
    {entry : String × Value}
    (flattened : flatten? pair = some entry) :
    ¬ entry.2.Holds held := by
  obtain ⟨key, _, rfl⟩ := Option.map_eq_some_iff.mp flattened
  cases pair.2.text? with
  | none => rintro ⟨⟩
  | some text => rintro ⟨⟩

/-- A value that comes from entries holds no number but theirs. -/
theorem BlockForm.exists_of_holds
    {held : Number}
    {entries : List Entry}
    {value : Value}
    (form : BlockForm entries value)
    (holds : value.Holds held) :
    ∃ entry ∈ entries, entry.Holds held := by
  cases form with
  | list given =>
      obtain ⟨item, inItems, holds⟩ := holds_list_iff.mp holds
      exact ⟨_, given item inItems, holds⟩
  | keyed given =>
      obtain ⟨member, inMembers, holds⟩ := exists_entry_of_holds holds
      exact ⟨_, given member inMembers, holds⟩
  | pairs given =>
      obtain ⟨member, inMembers, holds⟩ := exists_entry_of_holds holds
      obtain ⟨pair, _, flattened⟩ := given member inMembers
      exact absurd holds (not_holds_of_flatten? flattened)
  | null => cases holds

end Value

/-! ## Expressions -/

namespace Value

/-- A number in the value of a literal is the literal. -/
theorem eq_of_holds_ofLiteral
    {held : Number}
    {value : Literal}
    (holds : (ofLiteral value).Holds held) :
    value = .number held := by
  cases value with
  | number number => rw [holds_number_iff.mp holds]
  | null | bool | string | verbatim => cases holds

/-- A number in a list of the values of expressions stands in one of these values. -/
theorem exists_of_holds_ofExpressions
    {held : Number}
    {expressions : List Expression}
    (holds : (list (ofExpressions expressions)).Holds held) :
    ∃ expression ∈ expressions, (ofExpression expression).Holds held := by
  rw [ofExpressions_eq_map, holds_list_iff] at holds
  obtain ⟨_, inItems, holds⟩ := holds
  obtain ⟨expression, member, rfl⟩ := List.mem_map.mp inItems
  exact ⟨expression, member, holds⟩

/-- A number in the value of a block stands in what one of its expressions contributes. -/
theorem exists_of_holds_block
    {held : Number}
    {expressions : List Expression}
    {value : Value}
    (form : BlockForm (ofEntryList expressions) value)
    (holds : value.Holds held) :
    ∃ expression ∈ expressions, (ofEntry expression).Holds held := by
  obtain ⟨entry, member, holds⟩ := form.exists_of_holds holds
  rw [ofEntryList_eq_map] at member
  obtain ⟨expression, inExpressions, rfl⟩ := List.mem_map.mp member
  exact ⟨expression, inExpressions, holds⟩

/-- The numbers in the value of an expression, and in what it contributes, are written in it. -/
theorem isWithin_of_holds
    {held : Number}
    (expression : Expression) :
    ((ofExpression expression).Holds held →
        (Expression.literal (.number held)).IsWithin expression) ∧
      ((ofEntry expression).Holds held →
        (Expression.literal (.number held)).IsWithin expression) := by
  induction expression using Expression.partsInduction with
  | step whole hypothesis =>
      have inPart {part : Expression} (isPart : part ∈ whole.parts)
          (holds : (ofExpression part).Holds held) :
          (Expression.literal (.number held)).IsWithin whole :=
        ((hypothesis part isPart).1 holds).of_part isPart
      have inEntry {part : Expression} (isPart : part ∈ whole.parts)
          (holds : (ofEntry part).Holds held) :
          (Expression.literal (.number held)).IsWithin whole :=
        ((hypothesis part isPart).2 holds).of_part isPart
      cases whole with
      | literal value =>
          have written (holds : (ofLiteral value).Holds held) :
              (Expression.literal (.number held)).IsWithin (.literal value) := by
            rw [eq_of_holds_ofLiteral holds]
            exact .refl
          exact ⟨written, written⟩
      | invocation callee arguments =>
          refine ⟨?_, False.elim⟩
          cases arguments with
          | nil => rintro ⟨⟩
          | cons argument others =>
              simp only [ofExpression]
              exact inPart List.mem_cons_self
      | creation type arguments block =>
          cases block with
          | none => exact ⟨by rintro ⟨⟩, by rintro ⟨⟩⟩
          | some entries =>
              have written (holds : (ofBlock (ofEntryList entries)).Holds held) :
                  (Expression.literal (.number held)).IsWithin
                    (.creation type arguments (some entries)) := by
                obtain ⟨entry, member, holds⟩ := exists_of_holds_block (blockForm_ofBlock _) holds
                exact inEntry (List.mem_append_right arguments member) holds
              exact ⟨written, written⟩
      | targetTypedCreation arguments block =>
          cases block with
          | none =>
              have written (holds : (list (ofExpressions arguments)).Holds held) :
                  (Expression.literal (.number held)).IsWithin
                    (.targetTypedCreation arguments none) := by
                obtain ⟨argument, member, holds⟩ := exists_of_holds_ofExpressions holds
                exact inPart (List.mem_append_left _ member) holds
              exact ⟨written, written⟩
          | some entries =>
              have written (holds : (ofKeyedBlock (ofEntryList entries)).Holds held) :
                  (Expression.literal (.number held)).IsWithin
                    (.targetTypedCreation arguments (some entries)) := by
                obtain ⟨entry, member, holds⟩ :=
                  exists_of_holds_block (blockForm_ofKeyedBlock _) holds
                exact inEntry (List.mem_append_right arguments member) holds
              exact ⟨written, written⟩
      | assignment target bare value =>
          exact ⟨by rintro ⟨⟩, inPart List.mem_cons_self⟩
      | initializer entries =>
          refine ⟨by rintro ⟨⟩, ?_⟩
          rcases entries with _ | ⟨key, _ | ⟨value, _ | ⟨third, others⟩⟩⟩ <;> exact False.elim
      | name | index | unsupported => exact ⟨by rintro ⟨⟩, False.elim⟩

/-- The numbers in the object of a block are written in its entries. -/
theorem exists_entry_of_holds_ofRoot
    {held : Number}
    {block : List Expression}
    (holds : (ofRoot block).Holds held) :
    ∃ entry ∈ block, (Expression.literal (.number held)).IsWithin entry := by
  obtain ⟨entry, member, holds⟩ := exists_of_holds_block (blockForm_ofRoot block) holds
  exact ⟨entry, member, (isWithin_of_holds entry).2 holds⟩

end Value

end InitializerJson
