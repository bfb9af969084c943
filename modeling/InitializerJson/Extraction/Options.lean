import InitializerJson.Json.Basic
import InitializerJson.Json.Layout

namespace InitializerJson

/-!
# Options of an extraction

Which construction is wanted, and how its data is laid out.  Options may be
given as JSON: an object whose members may be missing, or an array of the
members in order, which may end early.  A choice is given by its name, or by an
object whose only member has that name and the value null.
-/

/-- How the wanted construction is addressed. -/
inductive Addressing where
  /-- By the identifier that it is assigned to. -/
  | assignment
  /-- By the type that it names. -/
  | typeName
  deriving Repr, DecidableEq, Inhabited

/-- What to extract and how to lay it out. -/
structure Options where
  identifier : String := "Body"
  addressing : Addressing := .assignment
  layout : Layout := .indented
  deriving Repr, DecidableEq

namespace Options

/-- Options in the indented layout. -/
def addressed
    (identifier : String)
    (addressing : Addressing) :
    Options :=
  { identifier, addressing }

/-- The options with another layout. -/
def withLayout
    (options : Options)
    (layout : Layout) :
    Options :=
  { options with layout }

end Options

/-- The name of a choice given as JSON. -/
def Json.choiceName? : Json → Option String
  | string name => some name
  | object [(name, null)] => some name
  | _ => none

/-- The way of addressing that a JSON document chooses. -/
def Addressing.ofJson?
    (json : Json) :
    Option Addressing :=
  match json.choiceName? with
  | some "assignment" => some assignment
  | some "type_name" => some typeName
  | _ => none

/-- The layout that a JSON document chooses. -/
def Layout.ofJson?
    (json : Json) :
    Option Layout :=
  match json.choiceName? with
  | some "indented" => some indented
  | some "compact" => some compact
  | _ => none

/-- The text that a JSON document is. -/
def Json.text? : Json → Option String
  | string value => some value
  | _ => none

/-- A member read from JSON where it is given, and its default where it is not. -/
def givenOr
    {α : Type}
    (default : α)
    (read : Json → Option α) :
    Option Json → Option α
  | none => some default
  | some json => read json

/-- Options from the JSON documents of their members, where these are given. -/
def Options.ofMembers?
    (identifier addressing layout : Option Json) :
    Option Options := do
  let standard : Options := {}
  let identifier ← givenOr standard.identifier Json.text? identifier
  let addressing ← givenOr standard.addressing Addressing.ofJson? addressing
  let layout ← givenOr standard.layout Layout.ofJson? layout
  return { identifier, addressing, layout }

/-- The options that a JSON document gives. -/
def Options.ofJson? : Json → Option Options
  | .object members =>
      ofMembers? (members.lookup "identifier") (members.lookup "mode")
        (members.lookup "layout")
  | .array items =>
      if items.length ≤ 3 then
        ofMembers? items[0]? items[1]? items[2]?
      else
        none
  | _ => none

end InitializerJson
