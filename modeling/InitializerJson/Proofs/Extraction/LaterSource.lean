import InitializerJson.Proofs.Expression.ContinuedReading
import InitializerJson.Proofs.Extraction.NestedCreations
import InitializerJson.Proofs.Lexical.SharedTokens

namespace InitializerJson

open Lexical

/-!
# Later source does not change an extraction

A source may go on behind the tokens it has.  Where the value of the first
assignment to an identifier ends at a delimiter, the same assignment is found in
the longer source, its value is the same, and so is all that is extracted by the
identifier.
-/

namespace Site

/-- The same word stands behind a site of a source that goes on. -/
theorem word?_continued
    {site : Site}
    (nonempty : site.behind ≠ [])
    (more : List Token) :
    (site.continued more).word? = site.word? := by
  rcases site with ⟨before, _ | ⟨first, rest⟩⟩
  · exact absurd rfl nonempty
  · rfl

/-- Assignments begin as before where the source had two tokens behind a site. -/
theorem beginsAssignment_continued
    {site : Site}
    (nonempty : site.behind.tail ≠ [])
    (more : List Token) :
    (site.continued more).beginsAssignment = site.beginsAssignment := by
  rcases site with ⟨before, _ | ⟨first, _ | ⟨second, rest⟩⟩⟩
  · exact absurd rfl nonempty
  · exact absurd rfl nonempty
  · rfl

/-- An assignment begins only where two tokens stand behind a site. -/
theorem tail_ne_nil_of_beginsAssignment
    {site : Site}
    (begins : site.beginsAssignment = true) :
    site.behind.tail ≠ [] := by
  intro nothing
  rw [beginsAssignment, nothing] at begins
  simp [startsWith] at begins

/-- A site that precedes another one has more tokens behind it. -/
theorem tail_ne_nil_of_precedes
    {tokens : List Token}
    {first second : Site}
    (firstMember : first ∈ all tokens)
    (secondMember : second ∈ all tokens)
    (earlier : first.Precedes second) :
    first.behind.tail ≠ [] := by
  obtain ⟨_, firstShape⟩ := mem_all_iff.mp firstMember
  obtain ⟨secondFilled, secondShape⟩ := mem_all_iff.mp secondMember
  have lengths := congrArg List.length (firstShape.symm.trans secondShape)
  have positive := List.length_pos_iff.mpr secondFilled
  rw [List.length_append, List.length_append, List.length_reverse, List.length_reverse] at lengths
  have before : first.before.length < second.before.length := earlier
  rw [← List.length_pos_iff, List.length_tail]
  omega

end Site

/-- The first assignment to an identifier is at the same site when the source goes on. -/
theorem firstAssignmentSite?_append
    {tokens : List Token}
    {name : String}
    {site : Site}
    (first : firstAssignmentSite? tokens name = some site)
    (more : List Token) :
    firstAssignmentSite? (tokens ++ more) name = some (site.continued more) := by
  rw [firstAssignmentSite?, List.find?_filter, List.find?_eq_some_iff_append] at first ⊢
  obtain ⟨found, earlier, later, shape, notEarlier⟩ := first
  have ordered := Site.pairwise_allFrom [] tokens
  rw [← Site.all, shape, List.pairwise_append] at ordered
  -- No site before the first assignment is the last one of the source.
  have goesOn : ∀ other ∈ earlier, other.behind.tail ≠ [] := by
    intro other member
    have otherMember : other ∈ Site.all tokens := by
      rw [shape]
      exact List.mem_append_left _ member
    have siteMember : site ∈ Site.all tokens := by
      rw [shape]
      exact List.mem_append_right _ List.mem_cons_self
    exact Site.tail_ne_nil_of_precedes otherMember siteMember
      (ordered.2.2 other member site List.mem_cons_self)
  have same : ∀ other : Site, other.behind.tail ≠ [] →
      (other.continued more).word? = other.word? ∧
        (other.continued more).beginsAssignment = other.beginsAssignment := by
    intro other filled
    exact ⟨Site.word?_continued (fun empty => filled (by rw [empty]; rfl)) more,
      Site.beginsAssignment_continued filled more⟩
  obtain ⟨word, begins⟩ := of_decide_eq_true found
  obtain ⟨sameWord, sameBegins⟩ := same site (Site.tail_ne_nil_of_beginsAssignment begins)
  refine ⟨?_, earlier.map (Site.continued · more),
    later.map (Site.continued · more) ++ Site.allFrom (tokens.reverse ++ []) more, ?_, ?_⟩
  · rw [sameWord, sameBegins]
    exact found
  · rw [Site.all, Site.allFrom_append, ← Site.all, shape]
    simp
  · intro other member
    obtain ⟨shorter, shorterMember, rfl⟩ := List.mem_map.mp member
    obtain ⟨shorterWord, shorterBegins⟩ := same shorter (goesOn shorter shorterMember)
    rw [shorterWord, shorterBegins]
    exact notEarlier shorter shorterMember

/-- The value assigned at a site ends at a delimiter of the source. -/
def Site.ValueEnds
    (site : Site) :
    Prop :=
  (readExpression site.assignedValue.behind).2.head?.any Token.isDelimiter = true

instance : DecidablePred Site.ValueEnds :=
  fun _ => inferInstanceAs (Decidable (_ = true))

/-- The tokens behind a value that ends at a delimiter hold that delimiter. -/
theorem Site.ValueEnds.holdsDelimiter
    {site : Site}
    (ends : site.ValueEnds) :
    HoldsDelimiter (readExpression site.assignedValue.behind).2 := by
  unfold ValueEnds at ends
  cases rest : (readExpression site.assignedValue.behind).2 with
  | nil => simp [rest] at ends
  | cons delimiter others =>
      refine ⟨delimiter, List.mem_cons_self, ?_⟩
      simpa [rest] using ends

/-- An assignment whose value ends at a delimiter is the same when the source goes on. -/
theorem Site.assignment_continued
    {site : Site}
    (begins : site.beginsAssignment = true)
    (ends : site.ValueEnds)
    (more : List Token) :
    (site.continued more).assignment = site.assignment := by
  have filled := tail_ne_nil_of_beginsAssignment begins
  have settled :=
    settles_expressionReader nestingLimit site.assignedValue.behind ends.holdsDelimiter more
  have behind :
      (site.behind ++ more).tail.tail = site.assignedValue.behind ++ more := by
    rcases site with ⟨before, _ | ⟨first, _ | ⟨second, rest⟩⟩⟩
    · exact absurd rfl filled
    · exact absurd rfl filled
    · rfl
  have word := word?_continued (fun empty => filled (by rw [empty]; rfl)) more
  unfold assignment
  rw [word]
  simp only [continued, behind]
  rw [readExpression, settled]
  rfl

/-- The first assignment to an identifier is the same when the source goes on. -/
theorem findAssignment?_append
    {tokens : List Token}
    {name : String}
    {site : Site}
    (first : firstAssignmentSite? tokens name = some site)
    (ends : site.ValueEnds)
    (more : List Token) :
    findAssignment? (tokens ++ more) name = findAssignment? tokens name := by
  have begins : site.beginsAssignment = true := List.find?_some first
  rw [findAssignment?_eq_map, findAssignment?_eq_map, firstAssignmentSite?_append first more,
    first, Option.map_some, Option.map_some, Site.assignment_continued begins ends more]

/--
A source that goes on behind its tokens has the same block, value and text for an
identifier, if the value of the first assignment to it ends at a delimiter.
-/
theorem extraction_of_continued
    {source more : String}
    {tokens longer : List Token}
    {identifier : String}
    {site : Site}
    (tokenized : tokenize source = .ok tokens)
    (longerTokenized : tokenize (source ++ more) = .ok longer)
    (begins :
      (placeTokens tokens).map PlacedToken.span <+:
        (placeTokens longer).map PlacedToken.span)
    (first : firstAssignmentSite? tokens identifier = some site)
    (ends : site.ValueEnds) :
    findBlock longer identifier .assignment = findBlock tokens identifier .assignment ∧
      extractValue (source ++ more) identifier .assignment =
        extractValue source identifier .assignment ∧
      ∀ layout,
        extractJson (source ++ more) ⟨identifier, .assignment, layout⟩ =
          extractJson source ⟨identifier, .assignment, layout⟩ := by
  obtain ⟨others, rfl⟩ := prefix_of_spans tokenized longerTokenized begins
  have sameBlock :
      findBlock (tokens ++ others) identifier .assignment =
        findBlock tokens identifier .assignment := by
    simp only [findBlock, findAssignment?_append first ends others]
  have sameValue :
      extractValue (source ++ more) identifier .assignment =
        extractValue source identifier .assignment := by
    simp only [extractValue, tokenized, longerTokenized, Except.map, sameBlock]
  refine ⟨sameBlock, sameValue, fun layout => ?_⟩
  simp only [extractJson, sameValue]

/-- A source whose first assignment ends at a semicolon, in a block that stays open. -/
def openSource : String :=
  "f(\x7ba=new T<U>\x7bb=g(1),c=x*(2\x7d),];"

/-- Source that assigns to the same identifier again and closes other brackets. -/
def laterText : String :=
  "a=new T\x7b\x7d)]>\x7d"

/-- What is extracted from the first assignment stays the same with the later source. -/
theorem extraction_of_continued_openSource :
    (extractJson openSource ⟨"a", .assignment, .compact⟩).toOption =
        some (.found "\x7b\"b\":1,\"c\":null\x7d") ∧
      ∀ layout,
        extractJson (openSource ++ laterText) ⟨"a", .assignment, layout⟩ =
          extractJson openSource ⟨"a", .assignment, layout⟩ := by
  have found : (firstAssignmentSite? (readTokens openSource.toList).tokens "a").isSome := by
    decide +kernel
  have tokenized : tokenize openSource = .ok (readTokens openSource.toList).tokens :=
    tokenize_eq_ok_iff.mpr ⟨rfl, by decide +kernel⟩
  have longerTokenized :
      tokenize (openSource ++ laterText) =
        .ok (readTokens (openSource ++ laterText).toList).tokens :=
    tokenize_eq_ok_iff.mpr ⟨rfl, by decide +kernel⟩
  have continued :=
    extraction_of_continued tokenized longerTokenized (by decide +kernel)
      (Option.some_get found).symm (by decide +kernel +revert)
  exact ⟨by decide +kernel, continued.2.2⟩

end InitializerJson
