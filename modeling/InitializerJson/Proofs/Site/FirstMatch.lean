import InitializerJson.Site

namespace InitializerJson

open Lexical

/-!
# The first of all assignments and creations

Looking for an assignment or a creation stops at the first one that fits, and a
creation is read only where the type behind its `new` has been read before.  What
is found in this way is the first fitting one among all that the source holds.
-/

/-- Where an opening bracket comes first, no type is declared. -/
theorem readDeclaredType_of_mark
    {mark : Punctuator}
    {tokens : List Token}
    (starts : startsWith mark tokens = true) :
    readDeclaredType tokens = (.malformed, tokens) := by
  cases tokens with
  | nil => cases starts
  | cons token rest =>
      rw [startsWith, beq_iff_eq] at starts
      have noWord : firstWord? (token :: rest) = none := by
        cases kind : token.kind <;>
          simp_all [firstWord?, Token.word?, Token.punctuator?]
      simp [readDeclaredType, noWord]

/-- A creation names the type that is read behind its `new`, and is none without a type. -/
theorem type_ofExpression?_readCreation
    (inner : Reader Expression)
    (tokens : List Token) :
    (Creation.ofExpression? (readCreation inner tokens).1).map Creation.type =
      match (readDeclaredType tokens.tail).1 with
      | .named type => some type
      | _ => none := by
  unfold readCreation
  by_cases call : startsWith .openParenthesis tokens.tail = true
  · rw [readDeclaredType_of_mark call]
    simp [call, Creation.ofExpression?]
  by_cases brace : startsWith .openBrace tokens.tail = true
  · rw [readDeclaredType_of_mark brace]
    simp [call, brace, unsupportedUpTo, Creation.ofExpression?]
  by_cases bracket : startsWith .openBracket tokens.tail = true
  · rw [readDeclaredType_of_mark bracket]
    simp [call, bracket, unsupportedUpTo, Creation.ofExpression?]
  rcases declared : readDeclaredType tokens.tail with ⟨type, rest⟩
  cases type <;>
    simp [call, brace, bracket, declared, unsupportedUpTo, Creation.ofExpression?]

namespace Site

/-- The type declared at a site is that of the creation that begins there. -/
theorem declaredType?_eq
    (site : Site) :
    site.declaredType? = site.creation?.map Creation.type :=
  (type_ofExpression?_readCreation _ site.behind).symm

/-- The type that is named behind a site is declared there. -/
theorem declaredType?_of_named
    (site : Site)
    {type : String}
    (named : (readDeclaredType site.behind.tail).1 = .named type) :
    site.declaredType? = some type := by
  rw [declaredType?, named]

/-- An assignment that begins at a site is one to the word there. -/
theorem target_assignment_eq_iff
    {site : Site}
    (begins : site.beginsAssignment = true)
    (name : String) :
    site.assignment.target = name ↔ site.word? = some name := by
  cases word : site.word? with
  | none => simp [beginsAssignment, word] at begins
  | some target => simp [assignment, word]

end Site

/-- The assignment that is found is the first one of its name among all of them. -/
theorem findAssignment?_eq_find?
    (tokens : List Token)
    (name : String) :
    findAssignment? tokens name =
      (assignments tokens).find? fun assignment => assignment.target == name := by
  unfold findAssignment? assignments
  induction Site.all tokens with
  | nil => rfl
  | cons site sites hypothesis =>
      cases begins : site.beginsAssignment with
      | false => by_cases named : site.word? = some name <;> simp_all
      | true =>
          have target := Site.target_assignment_eq_iff begins name
          by_cases named : site.word? = some name <;> simp_all

/-- The creation that is found is the first one of its type among all of them. -/
theorem findCreation?_eq_find?
    (tokens : List Token)
    (type : String) :
    findCreation? tokens type =
      (creations tokens).find? fun creation => creation.type == type := by
  unfold findCreation? creations
  induction Site.creationSites tokens with
  | nil => rfl
  | cons site sites hypothesis =>
      have declared := site.declaredType?_eq
      cases created : site.creation? with
      | none => simp_all
      | some creation => by_cases same : creation.type = type <;> simp_all

end InitializerJson
