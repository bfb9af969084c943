import InitializerJson.Proofs.Expression.WholeReading
import InitializerJson.Proofs.Site.FirstMatch
import InitializerJson.Proofs.Site.Order

namespace InitializerJson

open Lexical

/-!
# Declarations of variables

A name behind a type is declared: no assignment begins there, unless the type is a tuple,
whose parenthesis says nothing of a type.  Behind a comma a name stands by itself, so that
all the later names of a declaration are taken for names that are assigned to.
-/

/-- A variable that is declared with the literal it is initialized to, and its tokens. -/
structure Declarator where
  name : String
  literal : Literal
  value : List Token

namespace Declarator

/-- The tokens of a declarator. -/
def tokens
    (declarator : Declarator) :
    List Token :=
  wordToken [' '] declarator.name.toList :: markToken [' '] .assign :: declarator.value

/-- A declarator as an assignment. -/
def assignment
    (declarator : Declarator) :
    Assignment where
  target := declarator.name
  value := .literal declarator.literal

/-- The name is an unreserved word, and the value is spelled as some text of the literal. -/
structure IsWritten
    (declarator : Declarator) :
    Prop where
  isWord : IsWord declarator.name.toList
  unreserved : isReserved declarator.name = false
  scalar : ScalarTokens declarator.literal declarator.value
  spaced : ∀ token ∈ declarator.value, IsSpaces token.gap
  parted : ∀ token ∈ declarator.value.head?, token.IsParted
  reread : tokenize (String.ofList (spelling declarator.value)) = .ok declarator.value

end Declarator

/-- The tokens of declarators with commas between them and a semicolon behind the last. -/
def declaratorTokens
    (first : Declarator) :
    List Declarator → List Token
  | [] => first.tokens ++ [markToken [] .semicolon]
  | next :: others => first.tokens ++ markToken [] .comma :: declaratorTokens next others

/-- Some tokens end with a closing parenthesis. -/
def endsWithParenthesis
    (tokens : List Token) :
    Bool :=
  tokens.getLast?.any fun last => last.punctuator? == some .closeParenthesis

/-! ## Sites without an assignment -/

namespace Site

section Passed

variable
  {before passed rest : List Token}

/-- Tokens are passed over where no assignment begins before any of them. -/
theorem filter_allFrom_append
    (noneBegins :
      ∀ front token back, passed = front ++ token :: back →
        beginsAssignment ⟨front.reverse ++ before, token :: (back ++ rest)⟩ = false) :
    (allFrom before (passed ++ rest)).filter beginsAssignment =
      (allFrom (passed.reverse ++ before) rest).filter beginsAssignment := by
  have nothing :
      ((allFrom before passed).map (continued · rest)).filter beginsAssignment = [] := by
    simp only [List.filter_eq_nil_iff, List.forall_mem_map]
    rintro ⟨outside, behind⟩ member
    obtain ⟨nonempty, front, divided, shape⟩ := mem_allFrom_iff.mp member
    obtain ⟨token, back, rfl⟩ := List.exists_cons_of_ne_nil nonempty
    obtain rfl : outside = front.reverse ++ before := divided
    rw [Bool.not_eq_true]
    exact noneBegins front token back shape
  rw [allFrom_append, List.filter_append, nothing, List.nil_append]

/-- No assignment begins before a token that is no word, or a reserved one. -/
theorem filter_allFrom_of_reserved
    (before : List Token)
    (reserved : ∀ token ∈ passed, ∀ word ∈ token.word?, isReserved word = true)
    (rest : List Token) :
    (allFrom before (passed ++ rest)).filter beginsAssignment =
      (allFrom (passed.reverse ++ before) rest).filter beginsAssignment := by
  apply filter_allFrom_append
  rintro front token back rfl
  have noName : token.word?.any (fun word => !isReserved word) = false := by
    cases found : token.word? with
    | none => rfl
    | some word => simp [reserved token (by simp) word found]
  simp [beginsAssignment, word?, firstWord?, noName]

/-- No assignment begins before a token with no sign of one behind it. -/
theorem filter_allFrom_of_noSign
    (before : List Token)
    (noSign : ∀ token ∈ passed, token.punctuator? ≠ some .assign)
    (notNext : startsWith .assign rest = false) :
    (allFrom before (passed ++ rest)).filter beginsAssignment =
      (allFrom (passed.reverse ++ before) rest).filter beginsAssignment := by
  apply filter_allFrom_append
  rintro front token back rfl
  have behindToken : startsWith .assign (back ++ rest) = false := by
    cases back with
    | nil => exact notNext
    | cons next others => simpa [startsWith] using noSign next (by simp)
  simp [beginsAssignment, behindToken]

/-- Tokens whose brackets come in pairs are passed over on the way to an open bracket. -/
theorem enclosingOpener?_of_isBracketed
    {tokens : List Token}
    (bracketed : IsBracketed tokens)
    (depth : Nat)
    (before : List Token) :
    enclosingOpener? depth (tokens.reverse ++ before) = enclosingOpener? depth before := by
  induction bracketed generalizing depth before with
  | nil => rfl
  | @plain token rest notOpener notCloser _ hypothesis =>
      rw [List.reverse_cons, List.append_assoc, hypothesis]
      simp [enclosingOpener?, notOpener, notCloser]
  | @group opening closing inside rest paired _ _ insideHypothesis hypothesis =>
      have opens := paired.isOpener
      have notCloser : opening.isCloser = false := by
        rw [← Bool.not_eq_true]
        intro closes
        rw [isOpener_of_isCloser closes] at opens
        cases opens
      have shape : (opening :: (inside ++ closing :: rest)).reverse ++ before =
          rest.reverse ++ (closing :: (inside.reverse ++ opening :: before)) := by
        simp
      rw [shape, hypothesis]
      simp [enclosingOpener?, paired.isCloser, insideHypothesis, notCloser, opens]

end Passed

end Site

/-! ## Behind a type -/

section Types

variable
  {labels : Token → Prop}
  {role : TypeRole}
  {type : List Token}

/-- The parts of types end with a word or with one of four marks. -/
theorem IsType.exists_last
    (isType : IsType labels role type) :
    ∃ front last, type = front ++ [last] ∧
      (last.word?.isSome ∨ ∃ mark ∈ [Punctuator.greater, .closeParenthesis, .closeBracket,
        .question], last.punctuator? = some mark) := by
  induction isType with
  | word isWord => exact ⟨[], _, rfl, .inl isWord⟩
  | @qualified qualifier mark token _ _ isWord _ =>
      exact ⟨qualifier ++ [mark], token, by simp, .inl isWord⟩
  | @generic name inside opening closing _ _ _ closes _ _ =>
      exact ⟨name ++ opening :: inside, closing, by simp, .inr ⟨_, by simp, closes⟩⟩
  | @tuple inside opening closing _ _ closes _ =>
      exact ⟨opening :: inside, closing, by simp, .inr ⟨_, by simp, closes⟩⟩
  | @array element commas opening closing _ _ _ closes _ =>
      exact ⟨element ++ opening :: commas, closing, by simp, .inr ⟨_, by simp, closes⟩⟩
  | @nullable tokens mark _ question _ => exact ⟨tokens, mark, rfl, .inr ⟨_, by simp, question⟩⟩
  | @labelled tokens label _ isWord _ _ => exact ⟨tokens, label, rfl, .inl isWord⟩
  | named _ hypothesis | plain _ hypothesis | unlabelled _ hypothesis | single _ hypothesis =>
      exact hypothesis
  | @several _ tokens _ comma _ _ _ _ hypothesis =>
      obtain ⟨front, last, rfl, ends⟩ := hypothesis
      exact ⟨tokens ++ comma :: front, last, by simp, ends⟩

/-- A name behind a type stands by itself only if a parenthesis ends the type. -/
theorem IsType.separatesName_reverse
    (isType : IsType labels role type)
    (noLeader : ∀ token ∈ type, ∀ word ∈ token.word?, word ∉ expressionLeaders) :
    Site.separatesName type.reverse = endsWithParenthesis type := by
  obtain ⟨front, last, rfl, ends⟩ := isType.exists_last
  have lastNoLeader := noLeader last (by simp)
  rcases last with ⟨kind, gap, lexeme⟩
  rw [List.reverse_append, endsWithParenthesis, List.getLast?_append]
  rcases ends with isWord | ⟨mark, member, isMark⟩
  · cases kind with
    | identifier word => simpa [Site.separatesName, Token.punctuator?] using lastNoLeader word rfl
    | _ => cases isWord
  · cases kind with
    | punctuator known =>
        cases isMark
        simp only [List.mem_cons, List.not_mem_nil, or_false] at member
        rcases member with rfl | rfl | rfl | rfl <;> rfl
    | _ => cases isMark

end Types

/-! ## Behind a declarator -/

section Declared

variable
  {before rest : List Token}

/-- A declarator is passed over, with the mark behind it. -/
theorem Declarator.IsWritten.isBracketed
    {declarator : Declarator}
    (written : declarator.IsWritten)
    {mark : Punctuator}
    (notOpener : mark.isOpener = false)
    (notCloser : mark.isCloser = false) :
    IsBracketed (declarator.tokens ++ [markToken [] mark]) := by
  have name : IsBracketed [wordToken [' '] declarator.name.toList] :=
    isBracketed_word rfl
  have sign : IsBracketed [markToken [' '] .assign] :=
    isBracketed_mark rfl rfl rfl
  exact (name.append (sign.append written.scalar.isBracketed)).append
    (isBracketed_mark rfl notOpener notCloser)

/-- The value of a declarator is read up to the mark behind it. -/
theorem Declarator.IsWritten.assignment_eq
    {declarator : Declarator}
    (written : declarator.IsWritten)
    {mark : Punctuator}
    (isDelimiter : mark.isDelimiter = true)
    (before rest : List Token) :
    Site.assignment ⟨before, declarator.tokens ++ markToken [] mark :: rest⟩ =
      declarator.assignment := by
  have ends : atExpressionEnd (markToken [] mark :: rest) = true := by
    rw [atExpressionEnd, isDelimiter_markToken, isDelimiter]
  have read := (written.scalar.readsWhole 127).reads _ ends
  have word : firstWord? (declarator.tokens ++ markToken [] mark :: rest) =
      some declarator.name := by
    simp [Declarator.tokens]
  rw [Site.assignment, Site.word?, word, Option.getD_some]
  change Assignment.mk declarator.name (readExpression (declarator.value ++ _)).1 = _
  rw [readExpression, show nestingLimit = 127 + 1 from rfl, read]
  rfl

/--
From one declarator on, the assignments are those behind it, and the declarator itself if
its name stands by itself.
-/
theorem Declarator.IsWritten.assignments_step
    {declarator : Declarator}
    (written : declarator.IsWritten)
    {mark : Punctuator}
    (isSeparator : mark = .comma ∨ mark = .semicolon)
    (outside : Site.enclosingOpener? 0 before = none) :
    ((Site.allFrom before (declarator.tokens ++ markToken [] mark :: rest)).filter
        Site.beginsAssignment).map Site.assignment =
      (if Site.separatesName before then [declarator.assignment] else []) ++
        ((Site.allFrom ((declarator.tokens ++ [markToken [] mark]).reverse ++ before) rest).filter
          Site.beginsAssignment).map Site.assignment := by
  have shape : declarator.tokens ++ markToken [] mark :: rest =
      wordToken [' '] declarator.name.toList ::
        ((markToken [' '] .assign :: (declarator.value ++ [markToken [] mark])) ++ rest) := by
    simp [Declarator.tokens]
  have reserved : ∀ token ∈ markToken [' '] .assign :: (declarator.value ++ [markToken [] mark]),
      ∀ word ∈ token.word?, isReserved word = true := by
    simp only [List.forall_mem_cons, List.forall_mem_append]
    exact ⟨by rintro _ ⟨⟩, written.scalar.isReserved, by rintro _ ⟨⟩, List.forall_mem_nil _⟩
  have behindName := Site.filter_allFrom_of_reserved
    (wordToken [' '] declarator.name.toList :: before) reserved rest
  have isDelimiter : mark.isDelimiter = true := by
    rcases isSeparator with rfl | rfl <;> rfl
  have here :
      Site.beginsAssignment ⟨before, declarator.tokens ++ markToken [] mark :: rest⟩ =
        Site.separatesName before := by
    simp [Site.beginsAssignment, Site.word?, Declarator.tokens, written.unreserved,
      Site.declaresMember, outside]
  have value := written.assignment_eq isDelimiter before rest
  have passed :
      (markToken [' '] .assign :: (declarator.value ++ [markToken [] mark])).reverse ++
          wordToken [' '] declarator.name.toList :: before =
        (declarator.tokens ++ [markToken [] mark]).reverse ++ before := by
    simp [Declarator.tokens]
  rw [shape] at here value ⊢
  rw [Site.allFrom, List.filter_cons, here, behindName, passed]
  split
  · rw [List.map_cons, value]
    rfl
  · rfl

/-- The assignments in a declaration are its declarators, the first one if it stands by itself. -/
theorem assignments_declaratorTokens
    {first : Declarator}
    {others : List Declarator}
    (written : ∀ declarator ∈ first :: others, declarator.IsWritten)
    (outside : Site.enclosingOpener? 0 before = none) :
    ((Site.allFrom before (declaratorTokens first others)).filter
        Site.beginsAssignment).map Site.assignment =
      (if Site.separatesName before then first :: others else others).map
        Declarator.assignment := by
  induction others generalizing first before with
  | nil =>
      obtain ⟨firstWritten, _⟩ := List.forall_mem_cons.mp written
      rw [declaratorTokens, firstWritten.assignments_step (.inr rfl) outside]
      split <;> rfl
  | cons next others hypothesis =>
      obtain ⟨firstWritten, othersWritten⟩ := List.forall_mem_cons.mp written
      -- The comma in front of the next name separates it, whatever stands before the first.
      have separates : Site.separatesName
          ((first.tokens ++ [markToken [] .comma]).reverse ++ before) = true := by
        simp [Site.separatesName, markToken, Site.bindsName]
      have stillOutside : Site.enclosingOpener? 0
          ((first.tokens ++ [markToken [] .comma]).reverse ++ before) = none := by
        rw [Site.enclosingOpener?_of_isBracketed (firstWritten.isBracketed rfl rfl), outside]
      rw [declaratorTokens, firstWritten.assignments_step (.inl rfl) outside,
        hypothesis othersWritten stillOutside, if_pos separates]
      split <;> rfl

end Declared

/-! ## The text of a declaration -/

section Text

variable
  {declarator first : Declarator}
  {others : List Declarator}

/-- A declarator is read back before a mark and tokens that are read back. -/
theorem Declarator.IsWritten.areReadBack
    (written : declarator.IsWritten)
    {mark : Punctuator}
    (isSeparator : mark = .comma ∨ mark = .semicolon)
    {behind : List Token}
    {rest : List Char}
    (behindRead : AreReadBack behind rest) :
    AreReadBack (declarator.tokens ++ markToken [] mark :: behind) rest := by
  have name : (wordToken [' '] declarator.name.toList).IsSpelled :=
    .word isSpaces_one written.isWord
  have sign : (markToken [' '] .assign).IsSpelled :=
    .mark isSpaces_one .assign
  have separator : (markToken [] mark).IsSpelled :=
    .mark isSpaces_nil mark
  have nameRead := name.isReadBack_word rfl
    (sign.endsRun_mark rfl rfl (by decide)
      (declarator.value ++ markToken [] mark :: behind) rest)
  have separatorRead : (markToken [] mark).IsReadBack (spelling behind ++ rest) :=
    separator.isReadBack_whole rfl (by rcases isSeparator with rfl | rfl <;> decide) _
  have valueEnds : EndsLiteral (spelling (markToken [] mark :: behind) ++ rest) := by
    rcases isSeparator with rfl | rfl
    · exact ⟨by simp [markToken, Punctuator.spelling],
        separator.endsRun_mark rfl (by decide) (by decide) behind rest⟩
    · exact ⟨by simp [markToken, Punctuator.spelling],
        separator.endsRun_mark rfl (by decide) (by decide) behind rest⟩
  have valueRead := written.scalar.areReadBack written.spaced written.reread valueEnds
  have signEnds : Punctuator.assign.EndsBefore
      (spelling (declarator.value ++ markToken [] mark :: behind) ++ rest) := by
    obtain ⟨⟨token, tokens, shape, _⟩, _⟩ := written.scalar.readsWhole 0
    have parted := written.parted token (by rw [shape]; rfl)
    have spaces := written.spaced token (by rw [shape]; exact List.mem_cons_self)
    obtain ⟨space, gap, gapShape⟩ := List.exists_cons_of_ne_nil parted
    rw [gapShape] at spaces
    obtain ⟨rfl, _⟩ := List.forall_mem_cons.mp spaces
    rw [shape, List.cons_append, spelling_cons, gapShape]
    exact Punctuator.assign.endsBefore_space _
  have signRead := sign.isReadBack_mark rfl (by decide) signEnds
  exact ⟨nameRead, signRead, areReadBack_append.mpr ⟨valueRead, separatorRead, behindRead⟩⟩

/-- The declarators of a declaration are read back up to the end of the source. -/
theorem areReadBack_declaratorTokens
    (written : ∀ declarator ∈ first :: others, declarator.IsWritten) :
    AreReadBack (declaratorTokens first others) [] := by
  induction others generalizing first with
  | nil => exact (List.forall_mem_singleton.mp written).areReadBack (.inr rfl) trivial
  | cons next others hypothesis =>
      obtain ⟨firstWritten, othersWritten⟩ := List.forall_mem_cons.mp written
      exact firstWritten.areReadBack (.inl rfl) (hypothesis othersWritten)

/-- The text of a declaration is read as its tokens. -/
theorem tokenize_declaration
    {type : List Token}
    {role : TypeRole}
    (isType : IsType Token.IsParted role type)
    (spelled : ∀ token ∈ type, token.IsSpelled)
    (written : ∀ declarator ∈ first :: others, declarator.IsWritten) :
    tokenize (String.ofList (spelling (type ++ declaratorTokens first others))) =
      .ok (type ++ declaratorTokens first others) := by
  have typeEnds : EndsRun role.continues (spelling (declaratorTokens first others) ++ []) := by
    obtain ⟨more, shape⟩ : ∃ more, declaratorTokens first others =
        wordToken [' '] first.name.toList :: more := by
      cases others <;> exact ⟨_, rfl⟩
    rw [shape, spelling_cons]
    exact endsRun_cons (by cases role <;> rfl)
  apply tokenize_of_areReadBack
  · rw [String.toList_ofList]
  · rw [areReadBack_append]
    exact ⟨isType.areReadBack spelled typeEnds, areReadBack_declaratorTokens written⟩

end Text

/-! ## Assignments in a declaration -/

/-- A declarator among others is found by its name. -/
theorem find?_assignment
    {declarators : List Declarator}
    (distinct : (declarators.map Declarator.name).Nodup)
    {declarator : Declarator}
    (member : declarator ∈ declarators) :
    (declarators.map Declarator.assignment).find?
        (fun assignment => assignment.target == declarator.name) =
      some declarator.assignment := by
  induction declarators with
  | nil => cases member
  | cons first others hypothesis =>
      obtain ⟨fresh, othersDistinct⟩ := List.nodup_cons.mp distinct
      rcases List.mem_cons.mp member with rfl | later
      · simp [Declarator.assignment]
      · have notFirst : first.name ≠ declarator.name := by
          intro same
          exact fresh (same ▸ List.mem_map_of_mem later)
        rw [List.map_cons, List.find?_cons_of_neg (by simpa [Declarator.assignment] using notFirst),
          hypothesis othersDistinct later]

/-- The assignments in a declaration are the later declarators, and the first behind a tuple. -/
theorem assignments_append_declaratorTokens
    {labels : Token → Prop}
    {role : TypeRole}
    {type : List Token}
    (isType : IsType labels role type)
    (noLeader : ∀ token ∈ type, ∀ word ∈ token.word?, word ∉ expressionLeaders)
    {first : Declarator}
    {others : List Declarator}
    (written : ∀ declarator ∈ first :: others, declarator.IsWritten) :
    assignments (type ++ declaratorTokens first others) =
      (if endsWithParenthesis type then first :: others else others).map
        Declarator.assignment := by
  have noSign : ∀ token ∈ type, token.punctuator? ≠ some .assign :=
    fun token member => isType.punctuator?_ne member .assign (by decide)
  have notNext : startsWith .assign (declaratorTokens first others) = false := by
    cases others <;> rfl
  have outside : Site.enclosingOpener? 0 (type.reverse ++ []) = none :=
    Site.enclosingOpener?_of_isBracketed isType.isBracketed 0 []
  rw [assignments, Site.all, Site.filter_allFrom_of_noSign [] noSign notNext,
    assignments_declaratorTokens written outside, List.append_nil,
    isType.separatesName_reverse noLeader]

/--
In a declaration of variables by a type and literals, only the first name is declared, and
only if the type is no tuple: all later names are taken for names that are assigned to, and
their literals for what is assigned.
-/
theorem assignments_declaration
    {type : List Token}
    {first : Declarator}
    {others : List Declarator}
    (isType : IsType Token.IsParted .argument type)
    (spelled : ∀ token ∈ type, token.IsSpelled)
    (noLeader : ∀ token ∈ type, ∀ word ∈ token.word?, word ∉ expressionLeaders)
    (written : ∀ declarator ∈ first :: others, declarator.IsWritten)
    (distinct : ((first :: others).map Declarator.name).Nodup) :
    tokenize (String.ofList (spelling (type ++ declaratorTokens first others))) =
        .ok (type ++ declaratorTokens first others) ∧
      assignments (type ++ declaratorTokens first others) =
        (if endsWithParenthesis type then first :: others else others).map
          Declarator.assignment ∧
      findAssignment? (type ++ declaratorTokens first others) first.name =
        (if endsWithParenthesis type then some first.assignment else none) ∧
      ∀ declarator ∈ others,
        findAssignment? (type ++ declaratorTokens first others) declarator.name =
          some declarator.assignment := by
  have listed := assignments_append_declaratorTokens isType noLeader written
  obtain ⟨fresh, othersDistinct⟩ := List.nodup_cons.mp distinct
  refine ⟨tokenize_declaration isType spelled written, listed, ?_, fun declarator member => ?_⟩
  · rw [findAssignment?_eq_find?, listed]
    split
    · exact find?_assignment distinct List.mem_cons_self
    · rw [List.find?_eq_none]
      simp only [List.forall_mem_map]
      intro declarator member same
      exact fresh (List.mem_map.mpr ⟨declarator, member, eq_of_beq same⟩)
  · rw [findAssignment?_eq_find?, listed]
    split
    · exact find?_assignment distinct (List.mem_cons_of_mem _ member)
    · exact find?_assignment othersDistinct member

/-- The declarator `a = 1`. -/
def firstDeclarator : Declarator :=
  ⟨"a", .number (.integer 1), [digitToken [' '] '1']⟩

/-- The declarator `b = 2`. -/
def secondDeclarator : Declarator :=
  ⟨"b", .number (.integer 2), [digitToken [' '] '2']⟩

/-- A declarator with a digit is written. -/
theorem isWritten_digit
    {name : String}
    {digit : Char}
    {number : Number}
    (isWord : IsWord name.toList)
    (unreserved : isReserved name = false)
    (inBounds : Number.ofLiteral? (String.ofList [digit]) false = some number)
    (reread : tokenize (String.ofList [' ', digit]) = .ok [digitToken [' '] digit]) :
    Declarator.IsWritten ⟨name, .number number, [digitToken [' '] digit]⟩ where
  isWord := isWord
  unreserved := unreserved
  scalar := .number rfl inBounds
  spaced := List.forall_mem_singleton.mpr isSpaces_one
  parted := by
    rintro _ ⟨⟩
    exact List.cons_ne_nil _ _
  reread := reread

/-- The two declarators are written. -/
theorem isWritten_declarators :
    ∀ declarator ∈ [firstDeclarator, secondDeclarator], declarator.IsWritten := by
  have readOne : tokenize " 1" = .ok [digitToken [' '] '1'] := by
    rw [tokenize_eq_ok_iff]
    decide +kernel
  have readTwo : tokenize " 2" = .ok [digitToken [' '] '2'] := by
    rw [tokenize_eq_ok_iff]
    decide +kernel
  have first : firstDeclarator.IsWritten :=
    isWritten_digit (by decide +kernel) (by decide) (by decide +kernel) readOne
  have second : secondDeclarator.IsWritten :=
    isWritten_digit (by decide +kernel) (by decide) (by decide +kernel) readTwo
  exact List.forall_mem_cons.mpr ⟨first, List.forall_mem_singleton.mpr second⟩

/-- The tokens of `List<int>?`. -/
def nullableList : List Token :=
  [wordToken [] ['L', 'i', 's', 't'], markToken [] .less, wordToken [] ['i', 'n', 't'],
    markToken [] .greater, markToken [] .question]

/-- Of two declarators behind a nullable list, the second alone is listed as an assignment. -/
theorem assignments_declaration_nullableList :
    tokenize "List<int>? a = 1, b = 2;" =
        .ok (nullableList ++ declaratorTokens firstDeclarator [secondDeclarator]) ∧
      assignments (nullableList ++ declaratorTokens firstDeclarator [secondDeclarator]) =
        [⟨"b", .literal (.number (.integer 2))⟩] ∧
      findAssignment? (nullableList ++ declaratorTokens firstDeclarator [secondDeclarator]) "a" =
        none := by
  have list : IsType Token.IsParted .name [wordToken [] ['L', 'i', 's', 't']] :=
    .word rfl
  have integer : IsType Token.IsParted .argument [wordToken [] ['i', 'n', 't']] :=
    .plain (.named (.word rfl))
  have generic := list.generic (punctuator?_markToken [] .less) (.single (.unlabelled integer))
    (punctuator?_markToken [] .greater)
  have isType : IsType Token.IsParted .argument nullableList :=
    .nullable (.named generic) (punctuator?_markToken [] .question)
  have words : ∀ word ∈ [['L', 'i', 's', 't'], ['i', 'n', 't']], IsWord word := by
    decide +kernel
  have spelled : ∀ token ∈ nullableList, token.IsSpelled := by
    simp only [List.forall_mem_cons] at words
    simp [nullableList, Token.IsSpelled.mark isSpaces_nil, Token.IsSpelled.word isSpaces_nil, words]
  have noLeader : ∀ token ∈ nullableList, ∀ word ∈ token.word?, word ∉ expressionLeaders := by
    decide
  obtain ⟨tokenized, listed, found, _⟩ :=
    assignments_declaration isType spelled noLeader isWritten_declarators (by decide)
  exact ⟨tokenized, listed, found⟩

/-- The second declarator behind a plain type is found as an assignment to its name. -/
theorem assignments_secondDeclarator :
    ∃ tokens, tokenize "int a = 1, b = 2;" = .ok tokens ∧
      assignments tokens = [⟨"b", .literal (.number (.integer 2))⟩] ∧
      findAssignment? tokens "b" = some ⟨"b", .literal (.number (.integer 2))⟩ := by
  have isType : IsType Token.IsParted .argument [wordToken [] ['i', 'n', 't']] :=
    .plain (.named (.word rfl))
  have spelled : ∀ token ∈ [wordToken [] ['i', 'n', 't']], token.IsSpelled :=
    List.forall_mem_singleton.mpr (.word isSpaces_nil (by decide +kernel))
  have tokenized := tokenize_declaration isType spelled isWritten_declarators
  have listed := assignments_append_declaratorTokens isType (by decide) isWritten_declarators
  refine ⟨_, tokenized, listed, ?_⟩
  rw [findAssignment?_eq_find?, listed]
  rfl

end InitializerJson
