import InitializerJson.Extraction.Lookup
import InitializerJson.Proofs.Lexical.TokenSlices
import InitializerJson.Proofs.Site.Unformatted
import InitializerJson.Proofs.Value.Unformatted

namespace InitializerJson

open Lexical

/-!
# Extraction by identifier does not depend on formatting

Sources of the same kinds of tokens may differ in all their gaps, and in how they
write strings.  Where all assignments in the value that is looked up are to
single identifiers, the same is extracted from both.
-/

/-- Tokens of the same kind that carry their characters are the same without formatting. -/
theorem Lexical.Token.unformatted_eq
    {token other : Token}
    (carries : token.CarriesLexeme)
    (otherCarries : other.CarriesLexeme)
    (sameKind : token.kind = other.kind) :
    token.unformatted = other.unformatted := by
  rcases token with ⟨kind, gap, lexeme⟩
  rcases other with ⟨otherKind, otherGap, otherLexeme⟩
  obtain rfl : kind = otherKind := sameKind
  cases kind with
  | identifier word =>
      obtain rfl : word.toList = lexeme := carries rfl
      obtain rfl : word.toList = otherLexeme := otherCarries rfl
      rfl
  | _ => rfl

/-- Sources of the same kinds of tokens have the same tokens without formatting. -/
theorem map_unformatted_of_sameKinds
    {source other : String}
    {tokens others : List Token}
    (tokenized : tokenize source = .ok tokens)
    (otherTokenized : tokenize other = .ok others)
    (sameKinds : tokens.map Token.kind = others.map Token.kind) :
    tokens.map Token.unformatted = others.map Token.unformatted := by
  have carries := (covers_of_tokenize tokenized).carriesLexeme
  have othersCarry := (covers_of_tokenize otherTokenized).carriesLexeme
  clear tokenized otherTokenized
  induction tokens generalizing others with
  | nil =>
      cases others with
      | nil => rfl
      | cons => cases sameKinds
  | cons token rest hypothesis =>
      cases others with
      | nil => cases sameKinds
      | cons other more =>
          rw [List.map_cons, List.map_cons, List.cons.injEq] at sameKinds
          rw [List.forall_mem_cons] at carries othersCarry
          rw [List.map_cons, List.map_cons,
            Token.unformatted_eq carries.1 othersCarry.1 sameKinds.1,
            hypothesis sameKinds.2 carries.2 othersCarry.2]

/-- An assigned value has the same object without its formatting. -/
theorem Lookup.ofAssigned_unformatted
    {value : Expression}
    (assigns : value.AssignsBare) :
    (ofAssigned value.unformatted).map Value.ofRoot =
      (ofAssigned value).map Value.ofRoot := by
  have parts := (Expression.assignsBare_iff.mp assigns).2
  cases value with
  | creation type arguments block | targetTypedCreation arguments block =>
      cases block with
      | none => rfl
      | some entries =>
          have root := Value.ofRoot_unformatted fun entry member =>
            parts entry (List.mem_append_right arguments member)
          simp only [Expression.unformatted_creation, Expression.unformatted_targetTypedCreation,
            Option.map_some, ofAssigned, ofInitializer]
          exact congrArg found root
  | assignment target bare value => cases bare <;> rfl
  | literal | invocation | initializer | name | index | unsupported => rfl

/-- Assigned values that are the same without formatting have the same object. -/
theorem Lookup.ofAssigned_congr
    {value other : Expression}
    (same : value.unformatted = other.unformatted)
    (assigns : value.AssignsBare) :
    (ofAssigned value).map Value.ofRoot = (ofAssigned other).map Value.ofRoot := by
  have otherAssigns : other.AssignsBare := by
    rwa [← Expression.assignsBare_unformatted, ← same, Expression.assignsBare_unformatted]
  rw [← ofAssigned_unformatted assigns, same, ofAssigned_unformatted otherAssigns]

/--
From sources of the same kinds of tokens the same is extracted by an identifier,
in either layout, if all assignments in the value of the first assignment to it
are to single identifiers.
-/
theorem extractJson_of_sameKinds
    {source other : String}
    {tokens others : List Token}
    {identifier : String}
    (tokenized : tokenize source = .ok tokens)
    (otherTokenized : tokenize other = .ok others)
    (sameKinds : tokens.map Token.kind = others.map Token.kind)
    (assigns : ∀ assignment, findAssignment? tokens identifier = some assignment →
      assignment.value.AssignsBare)
    (layout : Layout) :
    extractJson source ⟨identifier, .assignment, layout⟩ =
      extractJson other ⟨identifier, .assignment, layout⟩ := by
  have unformatted := map_unformatted_of_sameKinds tokenized otherTokenized sameKinds
  have sameValue := findAssignment?_unformatted tokens identifier
  rw [unformatted, findAssignment?_unformatted] at sameValue
  have sameLookup :
      (findBlock tokens identifier .assignment).map Value.ofRoot =
        (findBlock others identifier .assignment).map Value.ofRoot := by
    unfold findBlock
    cases found : findAssignment? tokens identifier with
    | none =>
        rw [found, Option.map_none, Option.map_eq_none_iff] at sameValue
        rw [sameValue]
    | some assignment =>
        rw [found, Option.map_some, Option.map_eq_some_iff] at sameValue
        obtain ⟨otherAssignment, otherFound, same⟩ := sameValue
        rw [otherFound]
        exact Lookup.ofAssigned_congr same.symm (assigns assignment found)
  simp only [extractJson, extractValue, tokenized, otherTokenized, Except.map, sameLookup]

/-- A source on one line. -/
def denseSource : String :=
  "a=new T\x7bb=f(new U\x7bc=\"x\"\x7d),\x7bd\x7d\x7d;"

/-- The same tokens over several lines, with comments, a directive and an escaped string. -/
def looseSource : String :=
  "#if X\na = /* T */ new T // one\n\x7b b = f ( new U \x7b c = @\"x\" \x7d ) ,\n" ++
    "\x7b d \x7d\n\x7d ;"

/-- The same is extracted from the source on one line and from the one on several. -/
theorem extractJson_looseSource :
    (readTokens denseSource.toList).tokens.map Token.kind =
        (readTokens looseSource.toList).tokens.map Token.kind ∧
      (extractJson denseSource ⟨"a", .assignment, .compact⟩).toOption =
        some (.found "\x7b\"b\":\x7b\"c\":\"x\"\x7d\x7d") ∧
      extractJson denseSource ⟨"a", .assignment, .compact⟩ =
        extractJson looseSource ⟨"a", .assignment, .compact⟩ := by
  have sameKinds :
      (readTokens denseSource.toList).tokens.map Token.kind =
        (readTokens looseSource.toList).tokens.map Token.kind := by
    decide +kernel
  refine ⟨sameKinds, by decide +kernel, extractJson_of_sameKinds ?_ ?_ sameKinds ?_ .compact⟩
  · exact tokenize_eq_ok_iff.mpr ⟨rfl, by decide +kernel⟩
  · exact tokenize_eq_ok_iff.mpr ⟨rfl, by decide +kernel⟩
  · have allBare :
        (findAssignment? (readTokens denseSource.toList).tokens "a").all
          (fun assignment => assignment.value.AssignsBare) = true := by
      decide +kernel
    intro assignment found
    rw [found, Option.all_some, decide_eq_true_eq] at allBare
    exact allBare

end InitializerJson
