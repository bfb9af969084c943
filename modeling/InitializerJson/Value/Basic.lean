import InitializerJson.Json.Basic
import InitializerJson.Json.Layout
import InitializerJson.Value.Members

namespace InitializerJson

/-!
# Values

The data that an initializer builds.  A value has a JSON text in either layout,
a plain text for use as a name or text inside another value, and a JSON document
in which its numbers are bounded.
-/

/-- The data that an expression stands for. -/
inductive Value where
  | null
  | bool (value : Bool)
  | number (value : Number)
  | string (value : String)
  | list (items : List Value)
  /-- Members in order of first insertion. -/
  | object (members : List (String × Value))
  deriving Repr, Inhabited

namespace Value

/-- What holds of the plain values and passes to containers holds of every value. -/
theorem nestedInduction
    {motive : Value → Prop}
    (null : motive null)
    (bool : ∀ value, motive (bool value))
    (number : ∀ value, motive (number value))
    (string : ∀ value, motive (string value))
    (list : ∀ items, (∀ item ∈ items, motive item) → motive (list items))
    (object : ∀ members, (∀ member ∈ members, motive member.2) → motive (object members))
    (value : Value) :
    motive value := by
  refine Value.rec
    (motive_1 := motive)
    (motive_2 := fun items => ∀ item ∈ items, motive item)
    (motive_3 := fun members => ∀ member ∈ members, motive member.2)
    (motive_4 := fun member => motive member.2)
    null bool number string list object ?_ ?_ ?_ ?_ ?_ value
  · exact List.forall_mem_nil _
  · intro item items first others
    exact List.forall_mem_cons.mpr ⟨first, others⟩
  · exact List.forall_mem_nil _
  · intro member members first others
    exact List.forall_mem_cons.mpr ⟨first, others⟩
  · intro name value holds
    exact holds

/-- The object of a map of members. -/
def ofMembers
    (members : Members Value) :
    Value :=
  object members.entries

/-- Whether a value is null. -/
def isNull : Value → Bool
  | null => true
  | _ => false

/-- The number of items of a list. -/
def listLength? : Value → Option Nat
  | list items => some items.length
  | _ => none

/-- The number of members of an object. -/
def memberCount? : Value → Option Nat
  | object members => some members.length
  | _ => none

mutual

/-- The JSON text of a value that stands inside `depth` containers. -/
def write
    (layout : Layout)
    (depth : Nat) :
    Value → List Char
  | null => ['n', 'u', 'l', 'l']
  | bool true => ['t', 'r', 'u', 'e']
  | bool false => ['f', 'a', 'l', 's', 'e']
  | number value => value.text.toList
  | string value => quote value
  | list items => layout.enclose depth '[' ']' (writeItems layout (depth + 1) items)
  | object members =>
      layout.enclose depth '{' '}' (writeMembers layout (depth + 1) members)

/-- The JSON texts of the items of a list. -/
def writeItems
    (layout : Layout)
    (depth : Nat) :
    List Value → List (List Char)
  | [] => []
  | item :: items => write layout depth item :: writeItems layout depth items

/-- The JSON texts of the members of an object. -/
def writeMembers
    (layout : Layout)
    (depth : Nat) :
    List (String × Value) → List (List Char)
  | [] => []
  | (name, value) :: members =>
      layout.member name (write layout depth value) :: writeMembers layout depth members

end

/-- The JSON text of a value. -/
def render
    (layout : Layout)
    (value : Value) :
    String :=
  String.ofList (value.write layout 0)

/--
The plain text of a value: a string's own characters, a number's text, and the
compact JSON text of a list or object.  Null has none.
-/
def text? : Value → Option String
  | null => none
  | bool true => some "True"
  | bool false => some "False"
  | number value => some value.text
  | string value => some value
  | list items => some (render .compact (list items))
  | object members => some (render .compact (object members))

mutual

/-- The JSON document of a value; a number out of bounds becomes null. -/
def toJson : Value → Json
  | null => .null
  | bool value => .bool value
  | number value =>
      match value.toJsonNumber? with
      | some bounded => .number bounded
      | none => .null
  | string value => .string value
  | list items => .array (itemsToJson items)
  | object members => .object (membersToJson members)

/-- The JSON documents of the items of a list. -/
def itemsToJson : List Value → List Json
  | [] => []
  | item :: items => item.toJson :: itemsToJson items

/-- The JSON documents of the members of an object. -/
def membersToJson : List (String × Value) → List (String × Json)
  | [] => []
  | (name, value) :: members => (name, value.toJson) :: membersToJson members

end

end Value

end InitializerJson
