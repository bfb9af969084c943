import InitializerJson.Proofs.Expression.LiteralNumbers
import InitializerJson.Proofs.Number.Canonical
import InitializerJson.Proofs.Value.BlockShape
import InitializerJson.Proofs.Value.Rendering

namespace InitializerJson

open JsonText

/-!
# Canonical values

A value is canonical when its objects have no name twice and its numbers are
canonical, at every level.  Expressions whose numbers are written by literals
stand for canonical values: objects arise from maps, in which a later member
replaces an earlier one of the same name, and keys made of other values are
plain text.
-/

/-- Every object in a value has different names, and every number is canonical. -/
inductive Value.IsCanonical : Value → Prop where
  | null :
      IsCanonical .null
  | bool
      {truth : Bool} :
      IsCanonical (.bool truth)
  | number
      {number : Number}
      (canonical : number.IsCanonical) :
      IsCanonical (.number number)
  | string
      {text : String} :
      IsCanonical (.string text)
  | list
      {items : List Value}
      (canonical : ∀ item ∈ items, item.IsCanonical) :
      IsCanonical (.list items)
  | object
      {members : List (String × Value)}
      (nodup : (memberNames members).Nodup)
      (canonical : ∀ member ∈ members, member.2.IsCanonical) :
      IsCanonical (.object members)

/-- The values that an entry contributes as they are, are canonical. -/
def Entry.IsCanonical : Entry → Prop
  | plain value => value.IsCanonical
  | keyed _ value => value.IsCanonical
  | pair _ _ => True
  | other => True

/-! ## Blocks -/

namespace Value

/-- The object of canonical members is canonical, whatever their names. -/
theorem isCanonical_ofEntries
    {entries : List (String × Value)}
    (canonical : ∀ entry ∈ entries, entry.2.IsCanonical) :
    (ofEntries entries).IsCanonical :=
  .object (Members.ofList entries).nodup fun entry member =>
    canonical entry (Members.mem_entries_ofList member)

/-- A group of two contributes text or null. -/
theorem isCanonical_flatten?
    {pair : Value × Value}
    {entry : String × Value}
    (flattened : flatten? pair = some entry) :
    entry.2.IsCanonical := by
  obtain ⟨key, _, rfl⟩ := Option.map_eq_some_iff.mp flattened
  cases pair.2.text? with
  | none => exact .null
  | some text => exact .string

/-- A value that comes from canonical entries is canonical. -/
theorem BlockForm.isCanonical
    {entries : List Entry}
    {value : Value}
    (form : BlockForm entries value)
    (canonical : ∀ entry ∈ entries, entry.IsCanonical) :
    value.IsCanonical := by
  cases form with
  | list given => exact .list fun value member => canonical _ (given value member)
  | keyed given =>
      exact isCanonical_ofEntries fun member inMembers => canonical _ (given member inMembers)
  | pairs given =>
      refine isCanonical_ofEntries fun member inMembers => ?_
      obtain ⟨pair, _, flattened⟩ := given member inMembers
      exact isCanonical_flatten? flattened
  | null => exact .null

end Value

/-! ## Expressions -/

namespace Expression

/-- A literal whose number is written by a literal stands for a canonical value. -/
theorem WritesNumbers.isCanonical_ofLiteral
    {value : Literal}
    (writes : (literal value).WritesNumbers) :
    (Value.ofLiteral value).IsCanonical := by
  cases value with
  | null => exact .null
  | bool truth => exact .bool
  | number number => exact .number (writes number .refl).isCanonical
  | string text | verbatim text => exact .string

end Expression

namespace Value

section Lists

variable
  {expressions : List Expression}

/-- Expressions that stand for canonical values make a canonical list. -/
theorem isCanonical_ofExpressions
    (canonical : ∀ expression ∈ expressions, (ofExpression expression).IsCanonical) :
    (list (ofExpressions expressions)).IsCanonical := by
  rw [ofExpressions_eq_map]
  refine .list fun value member => ?_
  obtain ⟨expression, inExpressions, rfl⟩ := List.mem_map.mp member
  exact canonical expression inExpressions

/-- Expressions that contribute canonical values make canonical entries. -/
theorem isCanonical_ofEntryList
    (canonical : ∀ expression ∈ expressions, (ofEntry expression).IsCanonical) :
    ∀ entry ∈ ofEntryList expressions, entry.IsCanonical := by
  rw [ofEntryList_eq_map]
  intro entry member
  obtain ⟨expression, inExpressions, rfl⟩ := List.mem_map.mp member
  exact canonical expression inExpressions

end Lists

/--
Where literals write all numbers of an expression, both its value and what it
contributes to a block are canonical.
-/
theorem isCanonical_ofExpression
    {expression : Expression}
    (writes : expression.WritesNumbers) :
    (ofExpression expression).IsCanonical ∧ (ofEntry expression).IsCanonical := by
  induction expression using Expression.partsInduction with
  | step whole hypothesis =>
      have parts (part : Expression) (isPart : part ∈ whole.parts) :
          (ofExpression part).IsCanonical ∧ (ofEntry part).IsCanonical :=
        hypothesis part isPart (writes.of_part isPart)
      cases whole with
      | literal value =>
          simp only [ofExpression, ofEntry]
          exact ⟨writes.isCanonical_ofLiteral, writes.isCanonical_ofLiteral⟩
      | invocation callee arguments =>
          refine ⟨?_, trivial⟩
          cases arguments with
          | nil => exact .null
          | cons argument others =>
              simp only [ofExpression]
              exact (parts argument List.mem_cons_self).1
      | creation type arguments block =>
          cases block with
          | none => exact ⟨.null, .null⟩
          | some entries =>
              have canonical : (ofBlock (ofEntryList entries)).IsCanonical :=
                (blockForm_ofBlock _).isCanonical (isCanonical_ofEntryList fun entry member =>
                  (parts entry (List.mem_append_right arguments member)).2)
              simp only [ofExpression, ofEntry]
              exact ⟨canonical, canonical⟩
      | targetTypedCreation arguments block =>
          cases block with
          | none =>
              have canonical : (list (ofExpressions arguments)).IsCanonical :=
                isCanonical_ofExpressions fun argument member =>
                  (parts argument (List.mem_append_left _ member)).1
              simp only [ofExpression, ofEntry]
              exact ⟨canonical, canonical⟩
          | some entries =>
              have canonical : (ofKeyedBlock (ofEntryList entries)).IsCanonical :=
                (blockForm_ofKeyedBlock _).isCanonical (isCanonical_ofEntryList fun entry member =>
                  (parts entry (List.mem_append_right arguments member)).2)
              simp only [ofExpression, ofEntry]
              exact ⟨canonical, canonical⟩
      | assignment target bare value =>
          refine ⟨.null, ?_⟩
          simp only [ofEntry]
          exact (parts value List.mem_cons_self).1
      | initializer entries =>
          refine ⟨.null, ?_⟩
          rcases entries with _ | ⟨key, _ | ⟨value, _ | ⟨third, others⟩⟩⟩ <;> trivial
      | name | index | unsupported => exact ⟨.null, trivial⟩

/-- The object of a block in which literals write all numbers is canonical. -/
theorem isCanonical_ofRoot
    {block : List Expression}
    (writes : ∀ entry ∈ block, entry.WritesNumbers) :
    (ofRoot block).IsCanonical :=
  (blockForm_ofRoot block).isCanonical (isCanonical_ofEntryList fun expression inBlock =>
    (isCanonical_ofExpression (writes expression inBlock)).2)

/-- Canonical values are those of JSON. -/
theorem IsCanonical.isJson
    {value : Value}
    (canonical : value.IsCanonical) :
    value.IsJson := by
  induction canonical with
  | null | bool | string => trivial
  | @number number canonical =>
      cases number with
      | integer value => trivial
      | real text =>
          have written := IsRealText.numberText canonical
          rwa [String.ofList_toList] at written
  | list _ hypothesis => exact itemsAreJson_iff.mpr hypothesis
  | object _ _ hypothesis => exact membersAreJson_iff.mpr hypothesis

end Value

end InitializerJson
