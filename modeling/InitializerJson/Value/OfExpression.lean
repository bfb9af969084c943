import InitializerJson.Expression.Basic
import InitializerJson.Value.Basic

namespace InitializerJson

/-!
# The value of an expression

A block of entries is data only when all its entries have one shape: literals
and creations make a list, assignments make an object, and groups of two make an
object of plain texts.  Any other block, and any expression that is not data,
stands for null.
-/

/-- What an entry of a block contributes, by its shape. -/
inductive Entry where
  /-- A literal or a creation. -/
  | plain (value : Value)
  /-- An assignment. -/
  | keyed (target : String) (value : Value)
  /-- A group of two. -/
  | pair (key value : Value)
  | other

namespace Entry

/-- The value of a literal or creation. -/
def plain? : Entry → Option Value
  | plain value => some value
  | _ => none

/-- The member that an assignment contributes. -/
def keyed? : Entry → Option (String × Value)
  | keyed target value => some (target, value)
  | _ => none

/-- The two values of a group. -/
def pair? : Entry → Option (Value × Value)
  | pair key value => some (key, value)
  | _ => none

end Entry

namespace Value

/-- The value of a literal. -/
def ofLiteral : Literal → Value
  | .null => null
  | .bool value => bool value
  | .number value => number value
  | .string value => string value
  | .verbatim text => string text

/-- The object of some members, of which later ones replace earlier ones. -/
def ofEntries
    (entries : List (String × Value)) :
    Value :=
  ofMembers (Members.ofList entries)

/--
The member that a group of two contributes: both halves become plain text.  A
key without text contributes nothing, and a value without text is null.
-/
def flatten?
    (pair : Value × Value) :
    Option (String × Value) :=
  pair.1.text?.map fun key =>
    (key, (pair.2.text?.map string).getD null)

/-- The value of the entries of a block, by the shape that they share. -/
def ofBlock
    (entries : List Entry) :
    Value :=
  match entries.mapM Entry.plain? with
  | some values => list values
  | none =>
      match entries.mapM Entry.keyed? with
      | some members => ofEntries members
      | none =>
          match entries.mapM Entry.pair? with
          | some pairs => ofEntries (pairs.filterMap flatten?)
          | none => null

/-- The value of a block that must consist of assignments. -/
def ofKeyedBlock
    (entries : List Entry) :
    Value :=
  match entries.mapM Entry.plain? with
  | some _ => null
  | none =>
      match entries.mapM Entry.keyed? with
      | some members => ofEntries members
      | none => null

mutual

/--
The value of an expression.  A call stands for its first argument, a creation
for its block, and a creation without type and block for its arguments.
-/
def ofExpression : Expression → Value
  | .literal literal => ofLiteral literal
  | .invocation _ (argument :: _) => ofExpression argument
  | .creation _ _ (some block) => ofBlock (ofEntryList block)
  | .targetTypedCreation arguments none => list (ofExpressions arguments)
  | .targetTypedCreation _ (some block) => ofKeyedBlock (ofEntryList block)
  | _ => null

/-- The values of some expressions. -/
def ofExpressions : List Expression → List Value
  | [] => []
  | expression :: rest => ofExpression expression :: ofExpressions rest

/-- What an expression contributes as an entry of a block. -/
def ofEntry : Expression → Entry
  | .literal literal => .plain (ofLiteral literal)
  | .creation _ _ none => .plain null
  | .creation _ _ (some block) => .plain (ofBlock (ofEntryList block))
  | .targetTypedCreation arguments none => .plain (list (ofExpressions arguments))
  | .targetTypedCreation _ (some block) => .plain (ofKeyedBlock (ofEntryList block))
  | .assignment target _ value => .keyed target (ofExpression value)
  | .initializer [key, value] => .pair (ofExpression key) (ofExpression value)
  | _ => .other

/-- What the entries of a block contribute. -/
def ofEntryList : List Expression → List Entry
  | [] => []
  | entry :: entries => ofEntry entry :: ofEntryList entries

end

/--
The value of the block of the construction that was asked for: the object of
its assignments, whatever its other entries are.
-/
def ofRoot
    (block : List Expression) :
    Value :=
  ofEntries ((ofEntryList block).filterMap Entry.keyed?)

end Value

end InitializerJson
