import InitializerJson.Proofs.Site.AttributeSections

namespace InitializerJson

open Lexical

/-!
# Names that are declared

A name with a sign behind it is declared in braces right behind `new`, and in the
parentheses of an attribute.  Nothing is assigned to such a name, whatever the values of
the members before it hold, while the entries of a typed initializer in these values are
assignments.  A section of attributes is known by what stands before it, and on a parameter
it is not known: there the named arguments are taken for assignments.
-/

/-! ## Anonymous objects -/

/-- A member of an anonymous object, with the comma behind it if there is one. -/
structure Member where
  name : Token
  sign : Token
  value : List Token
  separator : List Token

namespace Member

/-- The tokens of a member. -/
def tokens
    (member : Member) :
    List Token :=
  member.name :: member.sign :: (member.value ++ member.separator)

/-- A member has a name, a sign, a value with its brackets in pairs, and at most a comma. -/
structure IsWritten
    (member : Member) :
    Prop where
  isName : member.name.word?.isSome
  isSign : member.sign.punctuator? = some .assign
  bracketed : IsBracketed member.value
  separates :
    member.separator = [] ∨
      ∃ comma : Token, member.separator = [comma] ∧ comma.punctuator? = some .comma

/-- The brackets of a member come in pairs. -/
theorem IsWritten.isBracketed
    {member : Member}
    (written : member.IsWritten) :
    IsBracketed member.tokens := by
  have separator : IsBracketed member.separator := by
    rcases written.separates with nothing | ⟨comma, shape, isComma⟩
    · rw [nothing]
      exact .nil
    · rw [shape]
      exact isBracketed_mark isComma rfl rfl
  exact (isBracketed_word written.isName).append
    ((isBracketed_mark written.isSign rfl rfl).append (written.bracketed.append separator))

/-- No assignment begins in the separator of a member. -/
theorem IsWritten.assignmentsAmong_separator
    {member : Member}
    (written : member.IsWritten)
    (front rest : List Token) :
    assignmentsAmong front member.separator rest = [] := by
  rcases written.separates with nothing | ⟨comma, shape, isComma⟩
  · rw [nothing]
    rfl
  · rw [shape, assignmentsAmong_of_mark isComma]

end Member

/-- The assignments that begin in the values of some members. -/
def heldAssignments
    (front : List Token) :
    List Member → List Token → List Assignment
  | [], _ => []
  | member :: others, rest =>
      assignmentsAmong (front ++ [member.name, member.sign]) member.value
          (member.separator ++ (others.flatMap Member.tokens ++ rest)) ++
        heldAssignments (front ++ member.tokens) others rest

/-- Where names are declared, the assignments in a member are those in its value. -/
theorem Member.IsWritten.assignmentsAmong_eq
    {member : Member}
    (written : member.IsWritten)
    {front : List Token}
    (declares : Site.declaresMember front.reverse = true)
    (rest : List Token) :
    assignmentsAmong front member.tokens rest =
      assignmentsAmong (front ++ [member.name, member.sign]) member.value
        (member.separator ++ rest) := by
  obtain ⟨word, isName⟩ := Option.isSome_iff_exists.mp written.isName
  have shape : member.tokens =
      [member.name] ++ ([member.sign] ++ (member.value ++ member.separator)) := by
    rfl
  have notFree : Site.isFree front.reverse word = false := by
    rw [Site.isFree, declares, Bool.not_true, Bool.and_false]
  rw [shape, assignmentsAmong_append]
  rw [List.append_assoc [member.sign], List.singleton_append,
    assignmentsAmong_name isName written.isSign, notFree, assignmentsAmong_append,
    assignmentsAmong_of_mark written.isSign, assignmentsAmong_append,
    written.assignmentsAmong_separator]
  simp

/-- Where names are declared, the assignments in some members are those in their values. -/
theorem assignmentsAmong_members
    {front : List Token}
    (declares : Site.declaresMember front.reverse = true)
    {members : List Member}
    (written : ∀ member ∈ members, member.IsWritten)
    (rest : List Token) :
    assignmentsAmong front (members.flatMap Member.tokens) rest =
      heldAssignments front members rest := by
  induction members generalizing front with
  | nil => rfl
  | cons member others hypothesis =>
      obtain ⟨first, later⟩ := List.forall_mem_cons.mp written
      have stillDeclares : Site.declaresMember (front ++ member.tokens).reverse = true := by
        rw [List.reverse_append, Site.declaresMember_of_isBracketed first.isBracketed, declares]
      rw [List.flatMap_cons, assignmentsAmong_append, first.assignmentsAmong_eq declares,
        hypothesis stillDeclares later, heldAssignments]

/-- An anonymous object. -/
structure AnonymousObject where
  creating : Token
  opening : Token
  members : List Member
  closing : Token

namespace AnonymousObject

/-- The tokens of an anonymous object. -/
def tokens
    (object : AnonymousObject) :
    List Token :=
  object.creating :: object.opening :: (object.members.flatMap Member.tokens ++ [object.closing])

/-- An anonymous object is written as `new` and its members in braces. -/
structure IsWritten
    (object : AnonymousObject) :
    Prop where
  creates : object.creating.word? = some "new"
  opens : object.opening.punctuator? = some .openBrace
  members : ∀ member ∈ object.members, member.IsWritten
  closes : object.closing.punctuator? = some .closeBrace

/-- The assignments in an anonymous object are those in the values of its members. -/
theorem IsWritten.assignmentsAmong_eq
    {object : AnonymousObject}
    (written : object.IsWritten)
    (front rest : List Token) :
    assignmentsAmong front object.tokens rest =
      heldAssignments (front ++ [object.creating, object.opening]) object.members
        (object.closing :: rest) := by
  have shape : object.tokens =
      [object.creating, object.opening] ++
        (object.members.flatMap Member.tokens ++ [object.closing]) := by
    rfl
  have noAssignment :
      ∀ token ∈ [object.creating, object.opening], ∀ word ∈ token.word?,
        isReserved word = true := by
    have reserved : isReserved "new" = true := by
      decide +kernel
    simp [written.creates, Token.word?_of_mark written.opens, reserved]
  have declares :
      Site.declaresMember (front ++ [object.creating, object.opening]).reverse = true := by
    rw [List.reverse_append, List.reverse_cons, List.reverse_singleton, List.singleton_append,
      List.cons_append, Site.declaresMember_openBrace written.opens]
    simp [firstWord?, written.creates]
  rw [shape, assignmentsAmong_append, assignmentsAmong_of_reserved noAssignment,
    assignmentsAmong_append, assignmentsAmong_members declares written.members,
    assignmentsAmong_of_mark written.closes, List.nil_append, List.append_nil,
    List.singleton_append]

end AnonymousObject

/-! ## Typed initializers -/

/-- What creates an object of a type: `new`, the type, and groups of arguments or sizes. -/
inductive TypedCreation : List Token → Prop where
  | plain
      {labels : Token → Prop}
      {creating : Token}
      {type : List Token}
      (creates : creating.word? = some "new")
      (isType : IsCreatedType labels type)
      (noNew : ∀ token ∈ type, token.word? ≠ some "new") :
      TypedCreation (creating :: type)
  | group
      {tokens inside : List Token}
      {opening closing : Token}
      (creation : TypedCreation tokens)
      (paired : Encloses opening closing)
      (nested : IsBracketed inside) :
      TypedCreation (tokens ++ opening :: (inside ++ [closing]))

/-- What leads to an entry of a typed initializer: its brace, and the entries before. -/
inductive LeadsToEntry : List Token → Prop where
  | first
      {creation : List Token}
      {opening : Token}
      (typed : TypedCreation creation)
      (opens : opening.punctuator? = some .openBrace) :
      LeadsToEntry (creation ++ [opening])
  | later
      {tokens entry : List Token}
      {comma : Token}
      (leads : LeadsToEntry tokens)
      (bracketed : IsBracketed entry)
      (isComma : comma.punctuator? = some .comma) :
      LeadsToEntry (tokens ++ (entry ++ [comma]))

/-- What creates an object of a type does not end with `new`. -/
theorem TypedCreation.exists_last
    {tokens : List Token}
    (typed : TypedCreation tokens) :
    ∃ front last, tokens = front ++ [last] ∧ last.word? ≠ some "new" := by
  cases typed with
  | @plain labels creating type creates isType noNew =>
      obtain ⟨front, last, rfl⟩ : ∃ front last, type = front ++ [last] := by
        cases isType with
        | name isName =>
            obtain ⟨front, last, shape, _⟩ := isName.exists_last
            exact ⟨front, last, shape⟩
        | nullable => exact ⟨_, _, rfl⟩
      exact ⟨creating :: front, last, rfl, noNew last (by simp)⟩
  | @group tokens inside opening closing _ paired _ =>
      obtain ⟨_, closer, _, _, closes⟩ := paired
      refine ⟨tokens ++ opening :: inside, closing, by simp, ?_⟩
      simp [Token.word?_of_mark closes]

/-- Before an entry of a typed initializer a name stands by itself. -/
theorem LeadsToEntry.separatesName
    {tokens : List Token}
    (leads : LeadsToEntry tokens)
    (before : List Token) :
    Site.separatesName (tokens.reverse ++ before) = true := by
  cases leads with
  | first _ opens =>
      rw [List.reverse_concat, List.cons_append, Site.separatesName_of_mark opens]
      rfl
  | later _ _ isComma =>
      rw [← List.append_assoc, List.reverse_concat, List.cons_append,
        Site.separatesName_of_mark isComma]
      rfl

/-- Entries of a typed initializer declare nothing. -/
theorem LeadsToEntry.declaresMember
    {tokens : List Token}
    (leads : LeadsToEntry tokens)
    (before : List Token) :
    Site.declaresMember (tokens.reverse ++ before) = false := by
  induction leads with
  | first typed opens =>
      obtain ⟨front, last, rfl, notNew⟩ := typed.exists_last
      rw [List.reverse_concat, List.cons_append, Site.declaresMember_openBrace opens,
        List.reverse_concat, List.cons_append, firstWord?]
      exact beq_false_of_ne notNew
  | later _ bracketed isComma hypothesis =>
      have pairs := bracketed.append (isBracketed_mark isComma rfl rfl)
      rw [List.reverse_append, List.append_assoc, Site.declaresMember_of_isBracketed pairs,
        hypothesis]

/-- An unreserved name with a sign is assigned to where an entry of a typed initializer begins. -/
theorem LeadsToEntry.assignmentsAmong_name
    {tokens : List Token}
    (leads : LeadsToEntry tokens)
    {name sign : Token}
    {word : String}
    (isName : name.word? = some word)
    (unreserved : isReserved word = false)
    (isSign : sign.punctuator? = some .assign)
    (front rest : List Token) :
    assignmentsAmong (front ++ tokens) [name] (sign :: rest) =
      [⟨word, (readExpression rest).1⟩] := by
  have free : Site.isFree (front ++ tokens).reverse word = true := by
    rw [Site.isFree, List.reverse_append, leads.separatesName, leads.declaresMember, unreserved]
    rfl
  rw [InitializerJson.assignmentsAmong_name isName isSign, free, if_pos rfl]

/-! ## Places of sections -/

/-- A section of attributes stands first, or behind a statement, a block or another section. -/
def StandsOnDeclaration
    (front : List Token) :
    Prop :=
  ∀ last ∈ front.getLast?,
    ∃ mark ∈ [Punctuator.semicolon, .openBrace, .closeBrace, .closeBracket],
      last.punctuator? = some mark

/-- A section of attributes stands first in a list of parameters, or behind a comma of it. -/
def StandsOnParameter
    (front : List Token) :
    Prop :=
  ∃ last ∈ front.getLast?,
    ∃ mark ∈ [Punctuator.openParenthesis, .comma], last.punctuator? = some mark

/-- A section on a declaration is taken for one. -/
theorem StandsOnDeclaration.opensAttributes
    {front : List Token}
    (stands : StandsOnDeclaration front)
    {opening : Token}
    (opens : opening.punctuator? = some .openBracket) :
    Site.opensAttributes opening front.reverse = true := by
  rcases List.eq_nil_or_concat front with rfl | ⟨earlier, last, rfl⟩
  · simp [Site.opensAttributes, startsWith, opens]
  · obtain ⟨mark, known, isMark⟩ := stands last (by simp)
    simpa [Site.opensAttributes, startsWith, opens, isMark] using known

/-- A section on a parameter is not taken for one. -/
theorem StandsOnParameter.opensAttributes
    {front : List Token}
    (stands : StandsOnParameter front)
    (opening : Token) :
    Site.opensAttributes opening front.reverse = false := by
  obtain ⟨last, isLast, mark, known, isMark⟩ := stands
  obtain ⟨earlier, rfl⟩ := List.getLast?_eq_some_iff.mp isLast
  simp only [List.mem_cons, List.not_mem_nil, or_false] at known
  rcases known with rfl | rfl <;> simp [Site.opensAttributes, isMark]

/-! ## Declared names -/

/--
In every source: no assignment begins in a section of attributes on a type or a member, and
on a parameter all its named arguments are taken for assignments, but those with reserved
names.  The assignments in an anonymous object are those in the values of its members, so
that none begins at a member.  An entry of a typed initializer that assigns to an unreserved
name is an assignment wherever it stands.
-/
theorem assignments_declaredNames
    (front rest : List Token) :
    (∀ attributes written,
      AttributeSection attributes written →
      StandsOnDeclaration front →
        assignments (front ++ (attributes ++ rest)) =
          assignmentsAmong [] front (attributes ++ rest) ++
            assignmentsAmong (front ++ attributes) rest []) ∧
      (∀ attributes written,
        AttributeSection attributes written →
        StandsOnParameter front →
          assignments (front ++ (attributes ++ rest)) =
            assignmentsAmong [] front (attributes ++ rest) ++
              ((written.filter fun assignment => !isReserved assignment.target) ++
                assignmentsAmong (front ++ attributes) rest [])) ∧
      (∀ object : AnonymousObject,
        object.IsWritten →
          assignments (front ++ (object.tokens ++ rest)) =
            assignmentsAmong [] front (object.tokens ++ rest) ++
              (heldAssignments (front ++ [object.creating, object.opening]) object.members
                  (object.closing :: rest) ++
                assignmentsAmong (front ++ object.tokens) rest [])) ∧
      ∀ tokens name sign word,
        LeadsToEntry tokens →
        name.word? = some word →
        isReserved word = false →
        sign.punctuator? = some .assign →
          assignments (front ++ (tokens ++ name :: sign :: rest)) =
            assignmentsAmong [] (front ++ tokens) (name :: sign :: rest) ++
              ⟨word, (readExpression rest).1⟩ ::
                assignmentsAmong (front ++ tokens ++ [name]) (sign :: rest) [] := by
  refine ⟨?_, ?_, ?_, ?_⟩
  · intro attributes written isSection stands
    obtain ⟨opening, opens, inside⟩ := isSection.exists_opening
    rw [assignments_append_append, inside, stands.opensAttributes opens]
    rfl
  · intro attributes written isSection stands
    obtain ⟨opening, _, inside⟩ := isSection.exists_opening
    rw [assignments_append_append, inside, stands.opensAttributes]
    rfl
  · intro object written
    rw [assignments_append_append, written.assignmentsAmong_eq]
  · intro tokens name sign word leads isName unreserved isSign
    have here := leads.assignmentsAmong_name isName unreserved isSign front rest
    have shape : front ++ (tokens ++ name :: sign :: rest) =
        front ++ tokens ++ ([name] ++ sign :: rest) := by
      simp
    rw [shape, assignments_append_append, here]
    rfl

/-- The tokens of `2` behind a space. -/
def twoBehindSpace : Token :=
  digitToken [' '] '2'

/-- The token of the name `N` behind a gap. -/
def nameN
    (gap : List Char) :
    Token :=
  wordToken gap ['N']

/-- The assignment of two to `N`. -/
def twoToN : Assignment :=
  ⟨"N", .literal (.number (.integer 2))⟩

/-- The section `[A(1, N = 2), B]`. -/
def twoAttributes : List Token :=
  markToken [] .openBracket ::
    ([wordToken [] ['A']] ++ markToken [] .openParenthesis ::
        ([digitToken [] '1'] ++ markToken [] .comma ::
            [nameN [' '], markToken [' '] .assign, twoBehindSpace] ++
          [markToken [] .closeParenthesis]) ++
      markToken [] .comma :: [wordToken [' '] ['B']] ++
      [markToken [] .closeBracket])

/-- What leads to the entry in `new N { N = 2 }`. -/
def typedOpening : List Token :=
  [wordToken [' '] ['n', 'e', 'w'], nameN [' '], markToken [' '] .openBrace]

/-- The anonymous object `new { N = new N { N = 2 } }`. -/
def nestedObject : AnonymousObject where
  creating := wordToken [] ['n', 'e', 'w']
  opening := markToken [' '] .openBrace
  members :=
    [
      ⟨nameN [' '], markToken [' '] .assign,
        typedOpening ++
          [nameN [' '], markToken [' '] .assign, twoBehindSpace, markToken [' '] .closeBrace],
        []⟩
    ]
  closing := markToken [' '] .closeBrace

/-- Two is read up to the end of an expression. -/
theorem readExpression_two
    {rest : List Token}
    (ends : atExpressionEnd rest = true) :
    (readExpression (twoBehindSpace :: rest)).1 = .literal (.number (.integer 2)) := by
  have inBounds : Number.ofLiteral? (String.ofList ['2']) false = some (.integer 2) := by
    decide +kernel
  have scalar : ScalarTokens (.number (.integer 2)) [twoBehindSpace] :=
    .number rfl inBounds
  exact congrArg Prod.fst ((scalar.readsWhole 127).reads rest ends)

/-- The section has one named argument. -/
theorem isSection_twoAttributes :
    AttributeSection twoAttributes [twoToN] := by
  have literal (gap : List Char) (digit : Char) : LiteralTokens [digitToken gap digit] :=
    .lone trivial
  have named : AttributeArgument [nameN [' '], markToken [' '] .assign, twoBehindSpace]
      [⟨"N", (readExpression [twoBehindSpace]).1⟩] :=
    .named rfl rfl (literal [' '] '2')
  rw [readExpression_two rfl] at named
  have attributeName (gap : List Char) (letter : Char) :
      AttributeName [wordToken gap [letter]] :=
    ⟨isBracketed_word rfl, by simp⟩
  have arguments : CommaSeparated AttributeArgument _ ([] ++ [twoToN]) :=
    .several (.positional (literal [] '1')) (punctuator?_markToken [] .comma) (.single named)
  have called : AttributeTokens _ [twoToN] :=
    .called (attributeName [] 'A') (punctuator?_markToken [] .openParenthesis) arguments
      (punctuator?_markToken [] .closeParenthesis)
  have bare : AttributeTokens [wordToken [' '] ['B']] [] :=
    .bare (attributeName [' '] 'B')
  have attributes : CommaSeparated AttributeTokens _ ([twoToN] ++ []) :=
    .several called (punctuator?_markToken [] .comma) (.single bare)
  exact .intro rfl attributes rfl

/-- The braces behind a name of a type lead to an entry. -/
theorem leadsToEntry_typedOpening :
    LeadsToEntry typedOpening := by
  have isType : IsCreatedType (fun _ => True) [nameN [' ']] :=
    .name (.word rfl)
  have noNew : ∀ token ∈ [nameN [' ']], token.word? ≠ some "new" := by
    decide
  have created : (wordToken [' '] ['n', 'e', 'w']).word? = some "new" := by
    decide
  exact .first (.plain created isType noNew) rfl

/-- The anonymous object is written, with a typed initializer as the value of its member. -/
theorem isWritten_nestedObject :
    nestedObject.IsWritten where
  creates := by decide
  opens := rfl
  members := by
    have word (gap word : List Char) : IsBracketed [wordToken gap word] :=
      isBracketed_word rfl
    have entry : IsBracketed [nameN [' '], markToken [' '] .assign, twoBehindSpace] :=
      (word [' '] ['N']).append ((isBracketed_mark rfl rfl rfl).append (.single rfl rfl))
    have block : IsBracketed
        (markToken [' '] .openBrace ::
          ([nameN [' '], markToken [' '] .assign, twoBehindSpace] ++
            [markToken [' '] .closeBrace])) :=
      .group ⟨_, _, rfl, rfl, rfl⟩ entry .nil
    have value := (word [' '] ['n', 'e', 'w']).append ((word [' '] ['N']).append block)
    exact List.forall_mem_singleton.mpr ⟨rfl, rfl, value, .inl rfl⟩
  closes := rfl

/--
A section in front of a source holds no assignment, and behind a parenthesis it holds one.
In an anonymous object the assignment to a member is none, and the one in its value is.
-/
theorem assignments_declaredNames_nested :
    (AttributeSection twoAttributes [twoToN] ∧ StandsOnDeclaration [] ∧
        assignments twoAttributes = []) ∧
      (StandsOnParameter [markToken [] .openParenthesis] ∧
        assignments (markToken [] .openParenthesis :: twoAttributes) = [twoToN]) ∧
      (nestedObject.IsWritten ∧
        assignments nestedObject.tokens =
          heldAssignments [nestedObject.creating, nestedObject.opening] nestedObject.members
            [nestedObject.closing]) ∧
      LeadsToEntry typedOpening ∧
        assignments nestedObject.tokens = [twoToN] := by
  have declaration : StandsOnDeclaration [] := by
    simp [StandsOnDeclaration]
  have parameter : StandsOnParameter [markToken [] .openParenthesis] :=
    ⟨_, rfl, .openParenthesis, by simp, rfl⟩
  refine ⟨⟨isSection_twoAttributes, declaration, ?_⟩, ⟨parameter, ?_⟩,
    ⟨isWritten_nestedObject, ?_⟩, leadsToEntry_typedOpening, ?_⟩
  · have outside := (assignments_declaredNames [] []).1 _ _ isSection_twoAttributes declaration
    exact outside
  · have named := (assignments_declaredNames [markToken [] .openParenthesis] []).2.1 _ _
      isSection_twoAttributes parameter
    have kept : [twoToN].filter (fun assignment => !isReserved assignment.target) = [twoToN] := by
      rfl
    rw [kept] at named
    exact named
  · have held := (assignments_declaredNames [] []).2.2.1 nestedObject isWritten_nestedObject
    simpa [assignmentsAmong, Site.allFrom] using held
  · let front : List Token :=
      [nestedObject.creating, nestedObject.opening, nameN [' '], markToken [' '] .assign]
    let rest : List Token :=
      [twoBehindSpace, markToken [' '] .closeBrace, nestedObject.closing]
    have found := (assignments_declaredNames front rest).2.2.2 typedOpening (nameN [' '])
      (markToken [' '] .assign) "N" leadsToEntry_typedOpening (by decide) (by decide +kernel) rfl
    have noneBefore :
        assignmentsAmong [] (front ++ typedOpening)
          (nameN [' '] :: markToken [' '] .assign :: rest) = [] := by
      rw [assignmentsAmong, List.map_eq_nil_iff, List.filter_eq_nil_iff]
      decide +kernel
    have noneBehind :
        assignmentsAmong (front ++ typedOpening ++ [nameN [' ']])
          (markToken [' '] .assign :: rest) [] = [] := by
      rw [assignmentsAmong, List.map_eq_nil_iff, List.filter_eq_nil_iff]
      decide +kernel
    rw [noneBefore, noneBehind, readExpression_two rfl] at found
    exact found

/-- The named argument of an attribute on a parameter is found as an assignment. -/
theorem findAssignment?_attributeOnParameter :
    ∃ tokens,
      tokenize "class C \x7b void M([A(N = 1)] int x) \x7b \x7d \x7d" = .ok tokens ∧
        (findAssignment? tokens "N").isSome = true :=
  ⟨_, tokenize_eq_ok_iff.mpr ⟨rfl, by decide +kernel⟩, by decide +kernel⟩

end InitializerJson
