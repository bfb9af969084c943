import InitializerJson.Proofs.Expression.DepthCounter
import InitializerJson.Proofs.Extraction.BlockLookup
import InitializerJson.Proofs.Site.CreationSites
import InitializerJson.Proofs.Value.LevelLimit

namespace InitializerJson

open Lexical Expression

/-!
# Nesting is bounded

However deeply the brackets of a source are nested, the expressions in its
assignments and creations have a bounded height, and so have the values that are
extracted.  The levels of recursion on the way from tokens to text are bounded by
constants.
-/

/-- An expression lies within an assignment or a creation of a source. -/
inductive LiesInSource
    (tokens : List Token)
    (expression : Expression) :
    Prop where
  | assigned
      {assignment : Assignment}
      (listed : assignment ∈ assignments tokens)
      (within : expression.IsWithin assignment.toExpression)
  | created
      {creation : Creation}
      (listed : creation ∈ creations tokens)
      (within : expression.IsWithin creation.toExpression)

/-- An assigned value is at most one higher than the nesting limit. -/
theorem height_assigned_le
    {tokens : List Token}
    {assignment : Assignment}
    (listed : assignment ∈ assignments tokens) :
    assignment.value.height ≤ nestingLimit + 1 := by
  obtain ⟨site, _, rfl⟩ := List.mem_map.mp listed
  exact height_read_le nestingLimit _

/-- A creation is at most two higher than the nesting limit. -/
theorem height_created_le
    {tokens : List Token}
    {creation : Creation}
    (listed : creation ∈ creations tokens) :
    creation.toExpression.height ≤ nestingLimit + 2 := by
  obtain ⟨site, _, created⟩ := List.mem_filterMap.mp listed
  rw [← Creation.eq_toExpression created]
  exact height_readCreation_le nestingLimit site.behind

/-- Every expression in a source is at most two higher than the nesting limit. -/
theorem LiesInSource.height_le
    {tokens : List Token}
    {expression : Expression}
    (lies : LiesInSource tokens expression) :
    expression.height ≤ nestingLimit + 2 := by
  cases lies with
  | assigned listed within =>
      refine Nat.le_trans within.height_le (height_le_succ_iff.mpr fun part isPart => ?_)
      rw [List.mem_singleton.mp isPart]
      exact height_assigned_le listed
  | created listed within => exact Nat.le_trans within.height_le (height_created_le listed)

/-- The entries of the block of a creation are parts of it. -/
theorem CreatesFrom.mem_parts
    {block : List Expression}
    {root entry : Expression}
    (creates : CreatesFrom (some block) root)
    (member : entry ∈ block) :
    entry ∈ root.parts := by
  cases creates with
  | typed | targetTyped => exact List.mem_append_right _ member

/-- The object of the block of a creation is not higher than the creation. -/
theorem CreatesFrom.height_ofRoot_le
    {block : List Expression}
    {root : Expression}
    (creates : CreatesFrom (some block) root) :
    (Value.ofRoot block).height ≤ root.height := by
  rw [root.height_eq]
  exact Value.height_ofRoot_le fun entry member =>
    heightEach_le_iff.mp (Nat.le_refl _) entry (creates.mem_parts member)

/-- A block that is found is that of a creation in the source. -/
theorem exists_createsFrom_of_findBlock
    {tokens : List Token}
    {identifier : String}
    {addressing : Addressing}
    {block : List Expression}
    (found : findBlock tokens identifier addressing = .found block) :
    ∃ root, LiesInSource tokens root ∧ CreatesFrom (some block) root := by
  unfold findBlock at found
  cases addressing with
  | assignment =>
      simp only [findAssignment?_eq_find?] at found
      split at found
      · next assignment isFirst =>
          refine ⟨assignment.value, ?_, ?_⟩
          · refine .assigned (List.mem_of_find?_eq_some isFirst) (IsWithin.of_part .refl ?_)
            exact List.mem_singleton.mpr rfl
          · exact ((Lookup.tellsOf_ofAssigned assignment.value).found block).mp found
      · cases found
  | typeName =>
      simp only [findCreation?_eq_find?] at found
      split at found
      · next creation isFirst =>
          refine ⟨creation.toExpression, .created (List.mem_of_find?_eq_some isFirst) .refl, ?_⟩
          have initializer := ((Lookup.tellsOf_ofInitializer _).found block).mp found
          rw [Creation.toExpression, initializer]
          exact .typed
      · cases found

/-- The heights in a source and the levels of recursion are bounded by constants. -/
structure NestsBoundedly
    (tokens : List Token) :
    Prop where
  /-- Assigned values are at most 129 expressions high. -/
  assigned :
    ∀ assignment ∈ assignments tokens, assignment.value.height ≤ 129
  /-- No expression is higher than 130, and no value higher than its expression. -/
  expression :
    ∀ expression, LiesInSource tokens expression →
      expression.height ≤ 130 ∧
        (Value.ofExpression expression).height ≤ expression.height ∧
        Value.ofExpressionWithin? 130 expression = some (Value.ofExpression expression)
  /-- With a counter the same expressions are read, and it is back where it was behind each. -/
  counted :
    ∀ (counter : DepthCounter) (place : List Token), counter.peak ≤ nestingLimit →
      (∃ after, ReadsCounting counter place ((readerInside counter.depth).read place) after) ∧
        ∀ result after, ReadsCounting counter place result after →
          result = (readerInside counter.depth).read place ∧
            after.depth = counter.depth ∧ after.peak ≤ nestingLimit
  /-- The counter is back at zero behind a creation, too, and has never passed the limit. -/
  countedCreation :
    ∀ inner place after, ReadsEachCounting inner .start (creationPlaces inner place) after →
      readCreation inner place = readCreation (expressionReader nestingLimit) place ∧
        after.depth = 0 ∧ after.peak ≤ nestingLimit
  /-- What is extracted is not higher than its creation, and is found and written in 130 levels. -/
  extracted :
    ∀ identifier addressing block, findBlock tokens identifier addressing = .found block →
      (∃ root, LiesInSource tokens root ∧ CreatesFrom (some block) root ∧
        (Value.ofRoot block).height ≤ root.height) ∧
        Value.ofRootWithin? 130 block = some (Value.ofRoot block) ∧
        ∀ layout, (Value.ofRoot block).writeWithin? layout 130 0 =
          some ((Value.ofRoot block).write layout 0)

/-- The nesting of every source is bounded. -/
theorem nestsBoundedly
    (tokens : List Token) :
    NestsBoundedly tokens where
  assigned _ listed :=
    height_assigned_le listed
  expression expression lies :=
    ⟨lies.height_le, Value.height_ofExpression_le expression,
      (Value.within?_of_height_le lies.height_le).1⟩
  counted counter place low := by
    refine ⟨exists_readsCounting counter place, fun result after reads => ?_⟩
    obtain ⟨same, returns⟩ := reads.eq_read
    exact ⟨same, returns.depth, Nat.le_trans returns.peak (Nat.max_le.mpr ⟨low, Nat.le_refl _⟩)⟩
  countedCreation inner place after reads := by
    obtain ⟨same, returns⟩ := reads.readCreation_eq
    exact ⟨same, returns.depth, returns.peak⟩
  extracted identifier addressing block found := by
    obtain ⟨root, lies, creates⟩ := exists_createsFrom_of_findBlock found
    have rootHeight := creates.height_ofRoot_le
    have entries : ∀ entry ∈ block, entry.height ≤ 130 := fun entry member =>
      Nat.le_trans (Nat.le_of_lt (height_lt_of_mem_parts (creates.mem_parts member)))
        lies.height_le
    have valueHeight := Nat.le_trans rootHeight lies.height_le
    exact ⟨⟨root, lies, creates, rootHeight⟩, Value.ofRootWithin?_of_height_le entries,
      fun layout => Value.writeWithin?_of_height_le valueHeight layout 0⟩

/-- The tokens of an object whose only member assigns through more names than may be open. -/
def chainTokens : List Token :=
  let word (text : String) : Token := ⟨.identifier text, [' '], text.toList⟩
  let assign : Token := ⟨.punctuator .assign, [], ['=']⟩
  [word "a", assign, word "new", word "T", ⟨.punctuator .openBrace, [], ['\x7b']⟩] ++
    (List.replicate 130 [word "b", assign]).flatten

/-- In such a source both bounds are reached. -/
theorem nestsBoundedly_chainTokens :
    (assignments chainTokens).head?.map (fun assignment => assignment.value.height) = some 129 ∧
      (creations chainTokens).map (fun creation => creation.toExpression.height) = [130] ∧
      NestsBoundedly chainTokens :=
  ⟨by decide +kernel, by decide +kernel, nestsBoundedly chainTokens⟩

end InitializerJson
