import InitializerJson.Proofs.Expression.UnformattedReading
import InitializerJson.Site

namespace InitializerJson

open Lexical

/-!
# Assignments are found without formatting

Whether an assignment begins at a site depends on the kinds of the tokens around it
alone.  Unformatted tokens therefore have their first assignment to an identifier
at the same site, and its value is the same expression up to formatting.
-/

namespace Site

/-- A site between the same tokens without their formatting. -/
def unformatted
    (site : Site) :
    Site where
  before :=
    site.before.map Token.unformatted
  behind :=
    site.behind.map Token.unformatted

/-- The sites between unformatted tokens are those between the tokens as written. -/
theorem allFrom_unformatted
    (before tokens : List Token) :
    allFrom (before.map Token.unformatted) (tokens.map Token.unformatted) =
      (allFrom before tokens).map unformatted := by
  induction tokens generalizing before with
  | nil => rfl
  | cons token rest hypothesis =>
      rw [allFrom, List.map_cons, List.map_cons, allFrom, ← hypothesis]
      rfl

/-- The innermost open bracket is the same token. -/
theorem enclosingOpener?_unformatted
    (depth : Nat)
    (before : List Token) :
    enclosingOpener? depth (before.map Token.unformatted) =
      (enclosingOpener? depth before).map
        (Prod.map Token.unformatted (List.map Token.unformatted)) := by
  fun_induction enclosingOpener? depth before with
  | case1 => simp [enclosingOpener?]
  | case2 depth token before closes hypothesis => simp [enclosingOpener?, closes, hypothesis]
  | case3 token before closes opens => simp [enclosingOpener?, closes, opens]
  | case4 token before closes opens depth hypothesis =>
      simp [enclosingOpener?, closes, opens, hypothesis]
  | case5 depth token before closes opens hypothesis =>
      simp [enclosingOpener?, closes, opens, hypothesis]

/-- The same brackets open lists of attributes. -/
theorem opensAttributes_unformatted
    (opener : Token)
    (before : List Token) :
    opensAttributes opener.unformatted (before.map Token.unformatted) =
      opensAttributes opener before := by
  cases before <;> rfl

/-- Names declare members at the same sites. -/
theorem declaresMember_unformatted
    (before : List Token) :
    declaresMember (before.map Token.unformatted) = declaresMember before := by
  unfold declaresMember
  rw [enclosingOpener?_unformatted]
  cases enclosingOpener? 0 before with
  | none => rfl
  | some found =>
      have opener (mark : Punctuator) :
          startsWith mark [found.1.unformatted] = startsWith mark [found.1] := rfl
      simp only [Option.map_some, Prod.map, opener, firstWord?_unformatted,
        enclosingOpener?_unformatted, Option.any_map, opensAttributes_unformatted]

/-- Names stand by themselves at the same sites. -/
theorem separatesName_unformatted
    (before : List Token) :
    separatesName (before.map Token.unformatted) = separatesName before := by
  cases before <;> rfl

/-- The same word stands behind a site. -/
theorem word?_unformatted
    (site : Site) :
    site.unformatted.word? = site.word? :=
  firstWord?_unformatted site.behind

/-- Assignments begin at the same sites. -/
theorem beginsAssignment_unformatted
    (site : Site) :
    site.unformatted.beginsAssignment = site.beginsAssignment := by
  rw [beginsAssignment, word?_unformatted]
  simp only [unformatted, ← List.map_tail, startsWith_unformatted, separatesName_unformatted,
    declaresMember_unformatted]
  rfl

/-- The value that is assigned at a site is the same up to formatting. -/
theorem value_assignment_unformatted
    (site : Site) :
    site.unformatted.assignment.value.unformatted = site.assignment.value.unformatted := by
  have alike := ignoresFormatting_expressionReader nestingLimit site.behind.tail.tail
  simp only [assignment, unformatted, ← List.map_tail]
  exact alike.result

end Site

/-- The first assignment to an identifier has the same value up to formatting. -/
theorem findAssignment?_unformatted
    (tokens : List Token)
    (name : String) :
    (findAssignment? (tokens.map Token.unformatted) name).map
        (fun assignment => assignment.value.unformatted) =
      (findAssignment? tokens name).map fun assignment => assignment.value.unformatted := by
  have sites : Site.all (tokens.map Token.unformatted) =
      (Site.all tokens).map Site.unformatted :=
    Site.allFrom_unformatted [] tokens
  simp only [findAssignment?, sites, List.filter_map, List.find?_map, Option.map_map,
    Function.comp_def, Site.word?_unformatted, Site.beginsAssignment_unformatted,
    Site.value_assignment_unformatted]

end InitializerJson
