import InitializerJson.Proofs.Expression.Nesting
import InitializerJson.Proofs.Site.FirstMatch
import InitializerJson.Proofs.Site.Order

namespace InitializerJson

open Lexical Expression List

/-!
# Creations and their sites

A creation that is read from a `new` in the source is listed for the site of that
`new`, and creations are listed in the order of their sites.
-/

namespace CreatedAt

/-- The site of a creation lists it. -/
theorem creation?_eq
    {place : List Token}
    {creation : Creation}
    (created : CreatedAt nestingLimit place creation)
    (before : List Token) :
    Site.creation? ⟨before, place⟩ = some creation := by
  rw [Site.creation?, created.reads]
  rfl

/-- A creation begins with a token. -/
theorem ne_nil
    {room : Nat}
    {place : List Token}
    {creation : Creation}
    (created : CreatedAt room place creation) :
    place ≠ [] := by
  rintro rfl
  cases created.begins

/-- The site before the `new` of a creation is one of a creation. -/
theorem beforeSuffix_mem
    {room : Nat}
    {tokens place : List Token}
    {creation : Creation}
    (created : CreatedAt room place creation)
    (suffix : place <:+ tokens) :
    Site.beforeSuffix tokens place ∈ Site.creationSites tokens :=
  List.mem_filter.mpr
    ⟨Site.beforeSuffix_mem_all suffix created.ne_nil, beq_iff_eq.mpr created.begins⟩

/-- A creation that is read somewhere in the source is listed. -/
theorem mem_creations
    {tokens place : List Token}
    {creation : Creation}
    (created : CreatedAt nestingLimit place creation)
    (suffix : place <:+ tokens) :
    creation ∈ creations tokens :=
  List.mem_filterMap.mpr ⟨_, created.beforeSuffix_mem suffix, created.creation?_eq _⟩

/-- A creation that is read behind the `new` of another one is listed behind it. -/
theorem pair_sublist_creations
    {tokens outerPlace innerPlace : List Token}
    {outer inner : Creation}
    (outerCreated : CreatedAt nestingLimit outerPlace outer)
    (innerCreated : CreatedAt nestingLimit innerPlace inner)
    (outerSuffix : outerPlace <:+ tokens)
    (innerSuffix : innerPlace <:+ outerPlace.tail) :
    [outer, inner] <+ creations tokens := by
  have innerSuffixAll : innerPlace <:+ tokens :=
    (innerSuffix.trans (List.tail_suffix outerPlace)).trans outerSuffix
  have sites :
      [Site.beforeSuffix tokens outerPlace, Site.beforeSuffix tokens innerPlace] <+
        Site.all tokens :=
    Site.pair_sublist_all
      (Site.beforeSuffix_mem_all outerSuffix outerCreated.ne_nil)
      (Site.beforeSuffix_mem_all innerSuffixAll innerCreated.ne_nil)
      (Site.precedes_beforeSuffix outerSuffix innerSuffix outerCreated.ne_nil)
  have listed := (sites.filter fun site => site.word? == some "new").filterMap Site.creation?
  have outerNew : (Site.beforeSuffix tokens outerPlace).word? = some "new" :=
    outerCreated.begins
  have innerNew : (Site.beforeSuffix tokens innerPlace).word? = some "new" :=
    innerCreated.begins
  have outerReads : (Site.beforeSuffix tokens outerPlace).creation? = some outer :=
    outerCreated.creation?_eq _
  have innerReads : (Site.beforeSuffix tokens innerPlace).creation? = some inner :=
    innerCreated.creation?_eq _
  simpa [creations, Site.creationSites, outerNew, innerNew, outerReads, innerReads] using listed

end CreatedAt

/-- An expression that is a creation is the expression of that creation. -/
theorem Creation.eq_toExpression
    {expression : Expression}
    {creation : Creation}
    (isCreation : Creation.ofExpression? expression = some creation) :
    expression = creation.toExpression := by
  cases expression with
  | creation type arguments initializer =>
      obtain rfl := Option.some.inj isCreation
      rfl
  | literal | invocation | targetTypedCreation | assignment | initializer | name | index
  | unsupported => cases isCreation

/-- A creation that a site lists and that fits is read from the `new` there. -/
theorem createdAt_of_creation?
    {tokens : List Token}
    {site : Site}
    {creation : Creation}
    (member : site ∈ Site.creationSites tokens)
    (listed : site.creation? = some creation)
    (fits : creationFitsWithin nestingLimit site.behind = true) :
    CreatedAt nestingLimit site.behind creation where
  begins := beq_iff_eq.mp (List.mem_filter.mp member).2
  reads := Creation.eq_toExpression listed
  fits := fits

/-- Where no site before has a creation of a type, the one there is the first of it. -/
theorem findCreation?_of_first
    {tokens : List Token}
    {site : Site}
    {creation : Creation}
    (member : site ∈ Site.creationSites tokens)
    (listed : site.creation? = some creation)
    (first : ∀ earlier ∈ Site.creationSites tokens, earlier.Precedes site →
      earlier.creation?.map Creation.type ≠ some creation.type) :
    findCreation? tokens creation.type = some creation := by
  have ordered : (Site.creationSites tokens).Pairwise Site.Precedes :=
    (Site.pairwise_allFrom [] tokens).filter _
  obtain ⟨front, rest, shape⟩ := List.append_of_mem member
  rw [shape] at ordered first
  obtain ⟨_, _, across⟩ := List.pairwise_append.mp ordered
  -- The sites in front precede the given one, so that none of them has a creation of the type.
  have noneInFront :
      (front.filterMap Site.creation?).find? (fun other => other.type == creation.type) =
        none := by
    rw [List.find?_eq_none]
    intro other otherMember sameType
    obtain ⟨earlier, inFront, reads⟩ := List.mem_filterMap.mp otherMember
    apply first earlier (List.mem_append_left _ inFront)
      (across earlier inFront site List.mem_cons_self)
    rw [reads, Option.map_some, beq_iff_eq.mp sameType]
  rw [findCreation?_eq_find?, creations, shape, List.filterMap_append, List.find?_append,
    noneInFront, List.filterMap_cons_some listed]
  simp

end InitializerJson
