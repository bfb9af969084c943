import InitializerJson.Proofs.Expression.EntryIsolation
import InitializerJson.Proofs.Site.AssignmentsAmong

namespace InitializerJson

open Lexical

/-!
# Sections of attributes

A section holds attributes in square brackets, and an attribute may have arguments in
parentheses: literals, with names or without.  Where the bracket of a section is taken for
one, no assignment begins in it.  Elsewhere every named argument is taken for an assignment,
unless its name is reserved.
-/

/-! ## Grammar -/

/-- Items with commas between them, and the assignments that they are written like. -/
inductive CommaSeparated
    (Item : List Token → List Assignment → Prop) :
    List Token → List Assignment → Prop where
  | single
      {tokens : List Token}
      {written : List Assignment}
      (item : Item tokens written) :
      CommaSeparated Item tokens written
  | several
      {tokens others : List Token}
      {comma : Token}
      {written more : List Assignment}
      (item : Item tokens written)
      (isComma : comma.punctuator? = some .comma)
      (behind : CommaSeparated Item others more) :
      CommaSeparated Item (tokens ++ comma :: others) (written ++ more)

/-- An argument of an attribute: a literal, which a name with a sign may stand before. -/
inductive AttributeArgument : List Token → List Assignment → Prop where
  | positional
      {value : List Token}
      (literal : LiteralTokens value) :
      AttributeArgument value []
  | named
      {name sign : Token}
      {word : String}
      {value : List Token}
      (isName : name.word? = some word)
      (isSign : sign.punctuator? = some .assign)
      (literal : LiteralTokens value) :
      AttributeArgument (name :: sign :: value) [⟨word, (readExpression value).1⟩]

/-- The tokens that name an attribute: brackets in pairs, and no sign of an assignment. -/
structure AttributeName
    (tokens : List Token) :
    Prop where
  bracketed : IsBracketed tokens
  noSign : ∀ token ∈ tokens, token.punctuator? ≠ some .assign

/-- An attribute, with the named arguments in its parentheses as they are written. -/
inductive AttributeTokens : List Token → List Assignment → Prop where
  | bare
      {name : List Token}
      (named : AttributeName name) :
      AttributeTokens name []
  | empty
      {name : List Token}
      {opening closing : Token}
      (named : AttributeName name)
      (opens : opening.punctuator? = some .openParenthesis)
      (closes : closing.punctuator? = some .closeParenthesis) :
      AttributeTokens (name ++ [opening, closing]) []
  | called
      {name inside : List Token}
      {opening closing : Token}
      {written : List Assignment}
      (named : AttributeName name)
      (opens : opening.punctuator? = some .openParenthesis)
      (arguments : CommaSeparated AttributeArgument inside written)
      (closes : closing.punctuator? = some .closeParenthesis) :
      AttributeTokens (name ++ opening :: (inside ++ [closing])) written

/-- A section of attributes, with all of their named arguments. -/
inductive AttributeSection : List Token → List Assignment → Prop where
  | intro
      {opening closing : Token}
      {inside : List Token}
      {written : List Assignment}
      (opens : opening.punctuator? = some .openBracket)
      (attributes : CommaSeparated AttributeTokens inside written)
      (closes : closing.punctuator? = some .closeBracket) :
      AttributeSection (opening :: (inside ++ [closing])) written

/-! ## Literals -/

/-- A literal is read up to the delimiter behind it, as it is read by itself. -/
theorem LiteralTokens.readExpression_append
    {tokens : List Token}
    (literal : LiteralTokens tokens)
    {rest : List Token}
    (ends : atExpressionEnd rest = true) :
    (readExpression (tokens ++ rest)).1 = (readExpression tokens).1 := by
  rw [readExpression, (isolates_expressionReader nestingLimit).read_append literal.isSegment ends,
    readExpression]

/-! ## Arguments -/

/-- The named arguments whose names could be assigned to, if they are taken for assignments. -/
def takenFor
    (declared : Bool)
    (written : List Assignment) :
    List Assignment :=
  if declared then
    []
  else
    written.filter fun assignment => !isReserved assignment.target

/-- What is taken for assignments in two parts is taken in both together. -/
theorem takenFor_append
    (declared : Bool)
    (written more : List Assignment) :
    takenFor declared (written ++ more) = takenFor declared written ++ takenFor declared more := by
  cases declared <;> simp [takenFor]

/-- Nothing is taken for assignments where nothing is written. -/
theorem takenFor_nil
    (declared : Bool) :
    takenFor declared [] = [] := by
  cases declared <;> rfl

section Arguments

variable
  {tokens : List Token}
  {written : List Assignment}

/-- The brackets of an argument come in pairs. -/
theorem AttributeArgument.isBracketed
    (argument : AttributeArgument tokens written) :
    IsBracketed tokens := by
  cases argument with
  | positional literal => exact literal.isSegment.isBracketed
  | named isName isSign literal =>
      exact (isBracketed_word (Option.isSome_of_eq_some isName)).append
        ((isBracketed_mark isSign rfl rfl).append literal.isSegment.isBracketed)

/-- The brackets of separated items come in pairs if those of each item do. -/
theorem CommaSeparated.isBracketed
    {Item : List Token → List Assignment → Prop}
    (each : ∀ {tokens written}, Item tokens written → IsBracketed tokens)
    (separated : CommaSeparated Item tokens written) :
    IsBracketed tokens := by
  induction separated with
  | single item => exact each item
  | several item isComma _ hypothesis =>
      exact (each item).append ((isBracketed_mark isComma rfl rfl).append hypothesis)

/--
Separated items hold what is taken for assignments in each of them, if every item and the
comma behind it lead to a place where this holds of the next item.
-/
theorem CommaSeparated.assignmentsAmong_eq
    {Item : List Token → List Assignment → Prop}
    {Inside : List Token → Prop}
    {declared : Bool}
    (each :
      ∀ {tokens written front rest}, Item tokens written → Inside front →
        atExpressionEnd rest = true →
        assignmentsAmong front tokens rest = takenFor declared written)
    (onward :
      ∀ {tokens written front comma}, Item tokens written → Inside front →
        comma.punctuator? = some .comma →
        Inside (front ++ tokens ++ [comma]))
    (separated : CommaSeparated Item tokens written)
    {front rest : List Token}
    (inside : Inside front)
    (ends : atExpressionEnd rest = true) :
    assignmentsAmong front tokens rest = takenFor declared written := by
  induction separated generalizing front with
  | single item => exact each item inside ends
  | @several tokens others comma written more item isComma _ hypothesis =>
      have commaEnds : atExpressionEnd (comma :: others ++ rest) = true :=
        atExpressionEnd_of_mark isComma rfl _
      have behind := hypothesis (onward item inside isComma)
      rw [assignmentsAmong_append, each item inside commaEnds, takenFor_append, ← behind,
        ← List.singleton_append, assignmentsAmong_append, assignmentsAmong_of_mark isComma,
        List.nil_append]

/--
A place in the parentheses of an attribute where an argument may begin; `declared` says
whether its name would be declared by the attribute.
-/
structure IsArgumentPlace
    (declared : Bool)
    (front : List Token) :
    Prop where
  separates : Site.separatesName front.reverse = true
  declares : Site.declaresMember front.reverse = declared

/-- A named argument is taken for an assignment unless its name is declared or reserved. -/
theorem AttributeArgument.assignmentsAmong_eq
    {declared : Bool}
    {front rest : List Token}
    (argument : AttributeArgument tokens written)
    (place : IsArgumentPlace declared front)
    (ends : atExpressionEnd rest = true) :
    assignmentsAmong front tokens rest = takenFor declared written := by
  cases argument with
  | positional literal => rw [assignmentsAmong_of_reserved literal.isReserved, takenFor_nil]
  | @named name sign word value isName isSign literal =>
      have nameAlone := assignmentsAmong_name isName isSign front (value ++ rest)
      have valueAlone : assignmentsAmong (front ++ [name]) (sign :: value) rest = [] := by
        apply assignmentsAmong_of_reserved
        rw [List.forall_mem_cons]
        exact ⟨by simp [Token.word?_of_mark isSign], literal.isReserved⟩
      rw [← List.singleton_append, assignmentsAmong_append, valueAlone, List.append_nil,
        List.cons_append, nameAlone, literal.readExpression_append ends]
      cases declared <;>
        simp [takenFor, Site.isFree, place.separates, place.declares, List.filter_cons]

/-- Behind an argument and a comma another argument may begin. -/
theorem AttributeArgument.isArgumentPlace
    {declared : Bool}
    {front : List Token}
    {comma : Token}
    (argument : AttributeArgument tokens written)
    (place : IsArgumentPlace declared front)
    (isComma : comma.punctuator? = some .comma) :
    IsArgumentPlace declared (front ++ tokens ++ [comma]) where
  separates := by
    rw [List.reverse_concat, Site.separatesName_of_mark isComma]
    rfl
  declares := by
    have pairs : IsBracketed (tokens ++ [comma]) :=
      argument.isBracketed.append (isBracketed_mark isComma rfl rfl)
    rw [List.append_assoc, List.reverse_append, Site.declaresMember_of_isBracketed pairs,
      place.declares]

end Arguments

/-! ## Attributes -/

section Attributes

variable
  {tokens : List Token}
  {written : List Assignment}

/-- The brackets of an attribute come in pairs. -/
theorem AttributeTokens.isBracketed
    (isAttribute : AttributeTokens tokens written) :
    IsBracketed tokens := by
  have paired {opening closing : Token}
      (opens : opening.punctuator? = some .openParenthesis)
      (closes : closing.punctuator? = some .closeParenthesis) :
      Encloses opening closing :=
    ⟨_, _, opens, rfl, closes⟩
  cases isAttribute with
  | bare named => exact named.bracketed
  | empty named opens closes =>
      exact named.bracketed.append (.group (paired opens closes) .nil .nil)
  | called named opens arguments closes =>
      exact named.bracketed.append
        (.group (paired opens closes) (arguments.isBracketed AttributeArgument.isBracketed) .nil)

/-- A place in the square brackets of a section where an attribute may begin. -/
structure IsAttributePlace
    (opening : Token)
    (before front : List Token) :
    Prop where
  enclosing : Site.enclosingOpener? 0 front.reverse = some (opening, before)

/-- Behind an attribute and a comma another attribute may begin. -/
theorem AttributeTokens.isAttributePlace
    {opening comma : Token}
    {before front : List Token}
    (isAttribute : AttributeTokens tokens written)
    (place : IsAttributePlace opening before front)
    (isComma : comma.punctuator? = some .comma) :
    IsAttributePlace opening before (front ++ tokens ++ [comma]) where
  enclosing := by
    have pairs : IsBracketed (tokens ++ [comma]) :=
      isAttribute.isBracketed.append (isBracketed_mark isComma rfl rfl)
    rw [List.append_assoc, List.reverse_append, Site.enclosingOpener?_of_isBracketed pairs,
      place.enclosing]

/-- In the parentheses behind the name of an attribute an argument may begin. -/
theorem AttributeName.isArgumentPlace
    {opening parenthesis : Token}
    {before front name : List Token}
    (named : AttributeName name)
    (place : IsAttributePlace opening before front)
    (opens : parenthesis.punctuator? = some .openParenthesis) :
    IsArgumentPlace (Site.opensAttributes opening before) (front ++ name ++ [parenthesis]) where
  separates := by
    rw [List.reverse_concat, Site.separatesName_of_mark opens]
    rfl
  declares := by
    rw [List.reverse_concat, Site.declaresMember_openParenthesis opens, List.reverse_append,
      Site.enclosingOpener?_of_isBracketed named.bracketed, place.enclosing]
    rfl

/-- No assignment begins in the name of an attribute. -/
theorem AttributeName.assignmentsAmong_eq
    {name front rest : List Token}
    (named : AttributeName name)
    (notNext : startsWith .assign rest = false) :
    assignmentsAmong front name rest = [] :=
  assignmentsAmong_of_noSign named.noSign notNext

/-- The named arguments of an attribute are taken for assignments where no section opens. -/
theorem AttributeTokens.assignmentsAmong_eq
    {opening : Token}
    {before front rest : List Token}
    (isAttribute : AttributeTokens tokens written)
    (place : IsAttributePlace opening before front)
    (ends : atExpressionEnd rest = true) :
    assignmentsAmong front tokens rest =
      takenFor (Site.opensAttributes opening before) written := by
  cases isAttribute with
  | bare named =>
      rw [named.assignmentsAmong_eq (startsWith_of_atExpressionEnd ends rfl), takenFor_nil]
  | @empty name parenthesis closing named opens closes =>
      have marks : assignmentsAmong (front ++ name) [parenthesis, closing] rest = [] := by
        apply assignmentsAmong_of_reserved
        simp [Token.word?_of_mark opens, Token.word?_of_mark closes]
      have nameAlone : assignmentsAmong front name ([parenthesis, closing] ++ rest) = [] :=
        named.assignmentsAmong_eq (startsWith_of_mark opens .assign _)
      rw [assignmentsAmong_append, nameAlone, marks, takenFor_nil, List.append_nil]
  | @called name inside parenthesis closing written named opens arguments closes =>
      have closingEnds : atExpressionEnd ([closing] ++ rest) = true :=
        atExpressionEnd_of_mark closes rfl _
      have nameAlone :
          assignmentsAmong front name ([parenthesis] ++ (inside ++ [closing]) ++ rest) = [] :=
        named.assignmentsAmong_eq (startsWith_of_mark opens .assign _)
      rw [← List.singleton_append, assignmentsAmong_append, nameAlone, assignmentsAmong_append,
        assignmentsAmong_of_mark opens, assignmentsAmong_append, assignmentsAmong_of_mark closes,
        arguments.assignmentsAmong_eq AttributeArgument.assignmentsAmong_eq
          AttributeArgument.isArgumentPlace (named.isArgumentPlace place opens) closingEnds,
        List.nil_append, List.nil_append, List.append_nil]

end Attributes

/-! ## Sections -/

/--
In a section no assignment begins where its bracket is taken for one of attributes.
Elsewhere the named arguments of all its attributes are taken for assignments.
-/
theorem AttributeSection.exists_opening
    {tokens : List Token}
    {written : List Assignment}
    (isSection : AttributeSection tokens written) :
    ∃ opening : Token,
      opening.punctuator? = some .openBracket ∧
        ∀ front rest,
          assignmentsAmong front tokens rest =
            takenFor (Site.opensAttributes opening front.reverse) written := by
  cases isSection with
  | @intro opening closing inside _ opens attributes closes =>
      refine ⟨opening, opens, fun front rest => ?_⟩
      have place : IsAttributePlace opening front.reverse (front ++ [opening]) := by
        constructor
        rw [List.reverse_concat, Site.enclosingOpener?_of_mark opens rfl]
      have closingEnds : atExpressionEnd ([closing] ++ rest) = true :=
        atExpressionEnd_of_mark closes rfl _
      rw [← List.singleton_append, assignmentsAmong_append, assignmentsAmong_of_mark opens,
        assignmentsAmong_append, assignmentsAmong_of_mark closes,
        attributes.assignmentsAmong_eq AttributeTokens.assignmentsAmong_eq
          AttributeTokens.isAttributePlace place closingEnds,
        List.nil_append, List.append_nil]

end InitializerJson
