import InitializerJson.Extraction.Options
import InitializerJson.Site
import InitializerJson.Value.OfExpression

namespace InitializerJson

/-!
# Extraction from one source

The wanted construction is looked up in the tokens of a source; its block, if it
has one, becomes a value, and the value becomes JSON text.
-/

open Lexical

/-- What came of looking for a construction. -/
inductive Lookup (α : Type) where
  | found (result : α)
  /-- The construction has no block. -/
  | noInitializer
  | noMatch
  deriving Repr, DecidableEq

namespace Lookup

/-- What came of it, with another view of the result. -/
def map
    {α β : Type}
    (view : α → β) :
    Lookup α → Lookup β
  | found result => found (view result)
  | noInitializer => noInitializer
  | noMatch => noMatch

/-- The block of a construction that was found. -/
def ofInitializer : Option (List Expression) → Lookup (List Expression)
  | some block => found block
  | none => noInitializer

/-- The block of an assigned value, which must be a creation. -/
def ofAssigned : Expression → Lookup (List Expression)
  | .creation _ _ initializer => ofInitializer initializer
  | .targetTypedCreation _ initializer => ofInitializer initializer
  | _ => noMatch

end Lookup

/--
The block of the construction that is wanted.  Only the first assignment to the
identifier counts, or the first creation of the type.
-/
def findBlock
    (tokens : List Token)
    (identifier : String)
    (addressing : Addressing) :
    Lookup (List Expression) :=
  match addressing with
  | .assignment =>
      match findAssignment? tokens identifier with
      | some assignment => Lookup.ofAssigned assignment.value
      | none => .noMatch
  | .typeName =>
      match findCreation? tokens identifier with
      | some creation => Lookup.ofInitializer creation.initializer
      | none => .noMatch

/-- The value of the construction that is wanted. -/
def extractValue
    (source identifier : String)
    (addressing : Addressing) :
    Except SyntaxError (Lookup Value) :=
  (tokenize source).map fun tokens =>
    (findBlock tokens identifier addressing).map Value.ofRoot

/-- The JSON text of the construction that is wanted. -/
def extractJson
    (source : String)
    (options : Options) :
    Except SyntaxError (Lookup String) :=
  (extractValue source options.identifier options.addressing).map fun lookup =>
    lookup.map (Value.render options.layout)

end InitializerJson
