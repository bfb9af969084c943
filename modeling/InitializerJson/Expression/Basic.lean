import InitializerJson.Number.Literal

namespace InitializerJson

/-!
# Expressions

The expressions that build data: literals, calls, object creations with their
initializers, and assignments.  Every other expression is kept as its source
text.
-/

/-- A literal value. -/
inductive Literal where
  | null
  | bool (value : Bool)
  | number (value : Number)
  | string (value : String)
  /-- A character literal or `default`, kept as written. -/
  | verbatim (text : String)
  deriving Repr, DecidableEq

/-- An expression.  The entries of an initializer block are expressions too. -/
inductive Expression where
  | literal (value : Literal)
  | invocation (callee : String) (arguments : List Expression)
  /-- An object creation that names its type, with its block if it has one. -/
  | creation
      (type : String)
      (arguments : List Expression)
      (initializer : Option (List Expression))
  /-- An object creation whose type is left to its context. -/
  | targetTypedCreation
      (arguments : List Expression)
      (initializer : Option (List Expression))
  /-- An assignment; a bare target is a single identifier. -/
  | assignment (target : String) (bare : Bool) (value : Expression)
  /-- A block of entries without a creation in front of it. -/
  | initializer (entries : List Expression)
  /-- An identifier or a chain of members. -/
  | name (text : String)
  /-- A bracketed index. -/
  | index (text : String)
  /-- Any other expression, as written. -/
  | unsupported (text : String)
  deriving Repr, Inhabited

namespace Expression

/-- Names and indexes may stand before the sign of an assignment. -/
def isAssignable : Expression → Bool
  | name _ => true
  | index _ => true
  | _ => false

/-- Whether an expression is a name. -/
def isName : Expression → Bool
  | name _ => true
  | _ => false

end Expression

/-- An object creation that names its type. -/
structure Creation where
  type : String
  arguments : List Expression
  initializer : Option (List Expression)

/-- The creation that an expression is, if it names its type. -/
def Creation.ofExpression? : Expression → Option Creation
  | .creation type arguments initializer => some ⟨type, arguments, initializer⟩
  | _ => none

/-- The expression of a creation. -/
def Creation.toExpression
    (creation : Creation) :
    Expression :=
  .creation creation.type creation.arguments creation.initializer

/-- An assignment to a bare identifier. -/
structure Assignment where
  target : String
  value : Expression

/-- The expression of an assignment to a bare identifier. -/
def Assignment.toExpression
    (assignment : Assignment) :
    Expression :=
  .assignment assignment.target true assignment.value

end InitializerJson
