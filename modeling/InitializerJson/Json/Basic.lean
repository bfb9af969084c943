import InitializerJson.Number.Basic

namespace InitializerJson

/-!
# JSON data

A JSON document as a reader holds it: members keep their order, and numbers are
bounded integers or doubles.
-/

/-- A JSON document. -/
inductive Json where
  | null
  | bool (value : Bool)
  | number (value : JsonNumber)
  | string (value : String)
  | array (items : List Json)
  | object (members : List (String × Json))
  deriving Repr, Inhabited

end InitializerJson
