import InitializerJson.Extraction.Lookup
import InitializerJson.Proofs.Expression.WrittenTokens
import InitializerJson.Proofs.Site.CreationSites

namespace InitializerJson

open Lexical Expression List

/-!
# Creations inside others

A creation reads the same from its own site as it does inside an assigned value or
inside another creation, as long as nothing there is passed over for want of room.
It is then listed among all creations, behind those that it lies in, and can be
looked up by its type.
-/

/-- An assigned value or a listed creation in which nothing was passed over for want of room. -/
inductive ReadsInRoom
    (tokens : List Token) :
    Expression → Prop where
  | assigned
      {site : Site}
      (member : site ∈ Site.all tokens)
      (begins : site.beginsAssignment = true)
      (fits : fitsWithin nestingLimit site.assignedValue.behind = true) :
      ReadsInRoom tokens site.assignment.value
  | listed
      {site : Site}
      {creation : Creation}
      (member : site ∈ Site.creationSites tokens)
      (reads : site.creation? = some creation)
      (fits : creationFitsWithin nestingLimit site.behind = true) :
      ReadsInRoom tokens creation.toExpression

/-- What lies within such a reading was read from a `new` of the source. -/
theorem ReadsInRoom.exists_createdAt
    {tokens : List Token}
    {root : Expression}
    {creation : Creation}
    (reading : ReadsInRoom tokens root)
    (within : creation.toExpression.IsWithin root) :
    ∃ place, place <:+ tokens ∧ CreatedAt nestingLimit place creation := by
  cases reading with
  | assigned member begins fits =>
      obtain ⟨place, suffix, created⟩ := exists_createdAt_of_isWithin fits within
      refine ⟨place, suffix.trans ?_, created⟩
      exact ((List.tail_suffix _).trans (List.tail_suffix _)).trans (Site.behind_suffix member)
  | listed member reads fits =>
      have suffix := Site.behind_suffix (List.mem_filter.mp member).1
      have whole := createdAt_of_creation? member reads fits
      rcases Relation.reflTransGen_iff_eq_or_transGen.mp within with same | inside
      · exact ⟨_, suffix, whole.begins, whole.reads.trans same, whole.fits⟩
      · obtain ⟨place, behind, created⟩ := whole.exists_createdAt_of_isInside inside
        exact ⟨place, (behind.trans (List.tail_suffix _)).trans suffix, created⟩

/-- A creation inside another one that the source lists is listed behind it. -/
theorem ReadsInRoom.pair_sublist
    {tokens : List Token}
    {root : Expression}
    {outer inner : Creation}
    (reading : ReadsInRoom tokens root)
    (within : outer.toExpression.IsWithin root)
    (inside : inner.toExpression.IsInside outer.toExpression) :
    [outer, inner] <+ creations tokens := by
  obtain ⟨outerPlace, outerSuffix, outerCreated⟩ := reading.exists_createdAt within
  obtain ⟨innerPlace, innerSuffix, innerCreated⟩ :=
    outerCreated.exists_createdAt_of_isInside inside
  exact outerCreated.pair_sublist_creations innerCreated outerSuffix innerSuffix

/-- The site of the first assignment to a bare identifier of a given name. -/
def firstAssignmentSite?
    (tokens : List Token)
    (name : String) :
    Option Site :=
  ((Site.all tokens).filter fun site => site.word? == some name).find? Site.beginsAssignment

/-- The first assignment is the one at the first site of one. -/
theorem findAssignment?_eq_map
    (tokens : List Token)
    (name : String) :
    findAssignment? tokens name =
      (firstAssignmentSite? tokens name).map Site.assignment :=
  rfl

/-- The site of an assigned creation is one of a creation, which is listed for it. -/
theorem assignedValue_mem_creationSites
    {tokens : List Token}
    {site : Site}
    {creation : Creation}
    (member : site ∈ Site.all tokens)
    (fits : fitsWithin nestingLimit site.assignedValue.behind = true)
    (value : site.assignment.value = creation.toExpression) :
    site.assignedValue ∈ Site.creationSites tokens ∧
      site.assignedValue.creation? = some creation := by
  have created : CreatedAt nestingLimit site.assignedValue.behind creation :=
    createdAt_of_read fits value
  refine ⟨List.mem_filter.mpr ⟨?_, beq_iff_eq.mpr created.begins⟩, created.creation?_eq _⟩
  exact Site.assignedValue_mem_all member created.ne_nil

/--
An assignment whose value is the first creation of its type has the block that is
looked up by that type.
-/
theorem findBlock_of_first
    {tokens : List Token}
    {name : String}
    {site : Site}
    {creation : Creation}
    (found : firstAssignmentSite? tokens name = some site)
    (fits : fitsWithin nestingLimit site.assignedValue.behind = true)
    (value : site.assignment.value = creation.toExpression)
    (first : ∀ earlier ∈ Site.creationSites tokens, earlier.Precedes site.assignedValue →
      earlier.creation?.map Creation.type ≠ some creation.type) :
    findBlock tokens name .assignment = findBlock tokens creation.type .typeName := by
  have member : site ∈ Site.all tokens :=
    (List.mem_filter.mp (List.mem_of_find?_eq_some found)).1
  obtain ⟨isSite, listed⟩ := assignedValue_mem_creationSites member fits value
  have byName : findAssignment? tokens name = some site.assignment := by
    rw [findAssignment?_eq_map, found, Option.map_some]
  have byType : findCreation? tokens creation.type = some creation :=
    findCreation?_of_first isSite listed first
  simp only [findBlock, byName, byType, value]
  rfl

/--
Every creation within an assigned value or within a listed creation is listed
itself, behind each creation there that it lies in, where nothing is passed over
for want of room.  A lookup by the identifier of an assignment then finds what a
lookup by the type of its value finds, unless that type was created before.
-/
theorem creations_nested
    (tokens : List Token) :
    (∀ root, ReadsInRoom tokens root →
      ∀ creation : Creation, creation.toExpression.IsWithin root →
        creation ∈ creations tokens ∧
          ∀ outer : Creation, outer.toExpression.IsWithin root →
            creation.toExpression.IsInside outer.toExpression →
              [outer, creation] <+ creations tokens) ∧
      ∀ (name : String) (site : Site) (creation : Creation),
        firstAssignmentSite? tokens name = some site →
          fitsWithin nestingLimit site.assignedValue.behind = true →
          site.assignment.value = creation.toExpression →
          (∀ earlier ∈ Site.creationSites tokens, earlier.Precedes site.assignedValue →
            earlier.creation?.map Creation.type ≠ some creation.type) →
          findBlock tokens name .assignment = findBlock tokens creation.type .typeName := by
  refine ⟨fun root reading creation within => ⟨?_, ?_⟩, ?_⟩
  · obtain ⟨place, suffix, created⟩ := reading.exists_createdAt within
    exact created.mem_creations suffix
  · exact fun outer outerWithin inside => reading.pair_sublist outerWithin inside
  · exact fun name site creation found fits value first =>
      findBlock_of_first found fits value first

/-- The tokens of an assigned creation with another one inside, and of one before it. -/
def boxTokens : List Token :=
  [
    wordToken [] "b".toList, markToken [] .assign,
    wordToken [] "new".toList, wordToken [' '] "Bag".toList,
    markToken [] .openParenthesis, markToken [] .closeParenthesis, markToken [] .semicolon,
    wordToken [] "a".toList, markToken [] .assign,
    wordToken [] "new".toList, wordToken [' '] "Box".toList, markToken [] .openBrace,
    wordToken [] "new".toList, wordToken [' '] "Lid".toList,
    markToken [] .openParenthesis, markToken [] .closeParenthesis, markToken [] .closeBrace
  ]

/-- The site of the second assignment among these tokens. -/
def boxSite : Site where
  before :=
    (boxTokens.take 7).reverse
  behind :=
    boxTokens.drop 7

/-- The second assignment is the first one to its identifier. -/
theorem firstAssignmentSite?_boxTokens :
    firstAssignmentSite? boxTokens "a" = some boxSite := by
  rfl

/-- The second assignment has a creation for its value, and another one in its block. -/
theorem exists_creations_boxSite :
    ∃ outer inner : Creation,
      boxSite.assignment.value = outer.toExpression ∧ outer.type = "Box" ∧
        inner.toExpression ∈ outer.toExpression.parts ∧ inner.type = "Lid" := by
  have outerType :
      (Creation.ofExpression? boxSite.assignment.value).map Creation.type = some "Box" := by
    decide +kernel
  have innerTypes :
      (boxSite.assignment.value.parts.filterMap Creation.ofExpression?).map Creation.type =
        ["Lid"] := by
    decide +kernel
  obtain ⟨outer, isOuter, outerNamed⟩ := Option.map_eq_some_iff.mp outerType
  have innerNamed :
      "Lid" ∈
        (boxSite.assignment.value.parts.filterMap Creation.ofExpression?).map Creation.type := by
    rw [innerTypes]
    exact List.mem_singleton_self "Lid"
  obtain ⟨inner, listed, named⟩ := List.mem_map.mp innerNamed
  obtain ⟨part, isPart, isInner⟩ := List.mem_filterMap.mp listed
  obtain rfl := Creation.eq_toExpression isInner
  have value := Creation.eq_toExpression isOuter
  exact ⟨outer, inner, value, outerNamed, value ▸ isPart, named⟩

/-- The inner creation is listed behind the outer one, which its type finds as well. -/
theorem creations_nested_box :
    ∃ outer inner : Creation,
      outer.type = "Box" ∧ inner.type = "Lid" ∧
        [outer, inner] <+ creations boxTokens ∧
        findBlock boxTokens "a" .assignment = findBlock boxTokens "Box" .typeName := by
  obtain ⟨outer, inner, value, outerNamed, isPart, innerNamed⟩ := exists_creations_boxSite
  have fits : fitsWithin nestingLimit boxSite.assignedValue.behind = true := by
    decide +kernel
  have first :
      ∀ earlier ∈ Site.creationSites boxTokens, earlier.Precedes boxSite.assignedValue →
        earlier.creation?.map Creation.type ≠ some "Box" := by
    decide +kernel
  have begins : boxSite.beginsAssignment = true := by
    decide +kernel
  have member : boxSite ∈ Site.all boxTokens :=
    (List.mem_filter.mp (List.mem_of_find?_eq_some firstAssignmentSite?_boxTokens)).1
  obtain ⟨nested, lookups⟩ := creations_nested boxTokens
  have inside : inner.toExpression.IsInside outer.toExpression := .single isPart
  have reading : ReadsInRoom boxTokens outer.toExpression :=
    value ▸ .assigned member begins fits
  obtain ⟨_, behindOuter⟩ := nested _ reading inner (Relation.TransGen.to_reflTransGen inside)
  have sameBlock :=
    lookups "a" boxSite outer firstAssignmentSite?_boxTokens fits value (outerNamed ▸ first)
  exact ⟨outer, inner, outerNamed, innerNamed, behindOuter outer .refl inside,
    outerNamed ▸ sameBlock⟩

end InitializerJson
