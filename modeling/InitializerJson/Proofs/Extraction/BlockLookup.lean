import InitializerJson.Extraction.Lookup
import InitializerJson.Proofs.Site.FirstMatch

namespace InitializerJson

open Lexical

/-!
# Which construction decides a lookup

A lookup by identifier is decided by the first of all assignments to it, and a
lookup by type by the first of all creations of it.  Assignments and creations
behind the first one have no say, whatever becomes of the first.
-/

/-- An expression creates an object, from a block if it has one. -/
inductive CreatesFrom : Option (List Expression) → Expression → Prop where
  | typed
      {type : String}
      {arguments : List Expression}
      {block : Option (List Expression)} :
      CreatesFrom block (.creation type arguments block)
  | targetTyped
      {arguments : List Expression}
      {block : Option (List Expression)} :
      CreatesFrom block (.targetTypedCreation arguments block)

/--
What came of a lookup tells of a construction: its block where it has one, that
it has none, or that there is no such construction.
-/
structure Lookup.TellsOf
    (lookup : Lookup (List Expression))
    (construction : Option (List Expression) → Prop) :
    Prop where
  found : ∀ block, lookup = .found block ↔ construction (some block)
  noInitializer : lookup = .noInitializer ↔ construction none
  noMatch : lookup = .noMatch ↔ ∀ block, ¬ construction block

namespace Lookup

/-- Without a construction there is no match. -/
theorem tellsOf_nothing :
    (noMatch : Lookup (List Expression)).TellsOf fun _ => False where
  found _ := by simp
  noInitializer := by simp
  noMatch := by simp

/-- The lookup of a construction with a known block tells of it. -/
theorem tellsOf_ofInitializer
    (initializer : Option (List Expression)) :
    (ofInitializer initializer).TellsOf fun block => initializer = block := by
  cases initializer with
  | none | some _ => constructor <;> simp [ofInitializer]

/-- What a lookup tells of a construction it tells of one with the same blocks. -/
theorem TellsOf.congr
    {lookup : Lookup (List Expression)}
    {construction other : Option (List Expression) → Prop}
    (tells : lookup.TellsOf construction)
    (same : ∀ block, construction block ↔ other block) :
    lookup.TellsOf other where
  found block := (tells.found block).trans (same (some block))
  noInitializer := tells.noInitializer.trans (same none)
  noMatch := tells.noMatch.trans (forall_congr' fun block => not_congr (same block))

/-- The lookup of an assigned value tells of the creation that the value is. -/
theorem tellsOf_ofAssigned
    (value : Expression) :
    (ofAssigned value).TellsOf fun block => CreatesFrom block value := by
  cases value with
  | creation type arguments initializer =>
      refine (tellsOf_ofInitializer initializer).congr fun block => ⟨?_, ?_⟩
      · rintro rfl
        exact .typed
      · rintro ⟨⟩
        rfl
  | targetTypedCreation arguments initializer =>
      refine (tellsOf_ofInitializer initializer).congr fun block => ⟨?_, ?_⟩
      · rintro rfl
        exact .targetTyped
      · rintro ⟨⟩
        rfl
  | literal | invocation | assignment | initializer | name | index | unsupported =>
      refine tellsOf_nothing.congr fun block => ⟨False.elim, ?_⟩
      rintro ⟨⟩

end Lookup

/--
Assignments and creations are found as the first fitting ones of all.  A lookup
by identifier tells of the creation that the first assignment to it assigns, and
of nothing where that is no creation; a lookup by type tells of the first
creation of the type.
-/
theorem findBlock_tellsOf_first
    (tokens : List Token)
    (name : String) :
    findAssignment? tokens name =
        ((assignments tokens).find? fun assignment => assignment.target == name) ∧
      findCreation? tokens name =
        ((creations tokens).find? fun creation => creation.type == name) ∧
      (findBlock tokens name .assignment).TellsOf (fun block =>
        ∃ assignment,
          ((assignments tokens).find? fun assignment => assignment.target == name) =
              some assignment ∧
            CreatesFrom block assignment.value) ∧
      (findBlock tokens name .typeName).TellsOf (fun block =>
        ∃ creation,
          ((creations tokens).find? fun creation => creation.type == name) = some creation ∧
            creation.initializer = block) := by
  have assigned := findAssignment?_eq_find? tokens name
  have created := findCreation?_eq_find? tokens name
  refine ⟨assigned, created, ?_, ?_⟩
  · rw [findBlock, assigned]
    cases (assignments tokens).find? fun assignment => assignment.target == name with
    | none => simpa using Lookup.tellsOf_nothing
    | some assignment => simpa using Lookup.tellsOf_ofAssigned assignment.value
  · rw [findBlock, created]
    cases (creations tokens).find? fun creation => creation.type == name with
    | none => simpa using Lookup.tellsOf_nothing
    | some creation => simpa using Lookup.tellsOf_ofInitializer creation.initializer

end InitializerJson
