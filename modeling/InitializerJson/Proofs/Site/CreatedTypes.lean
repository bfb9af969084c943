import InitializerJson.Proofs.Expression.TypeReading
import InitializerJson.Proofs.Site.FirstMatch

namespace InitializerJson

open Lexical

/-!
# Types of creations are read whole

However deep the arguments of a type are nested, and whatever spaces stand between its
tokens, the type behind a `new` is read whole.  The creation names it as it is written and
is found by that text.  With square brackets behind the type there is no creation.
-/

/-- The token of `new` behind a space. -/
def newToken : Token :=
  wordToken [' '] ['n', 'e', 'w']

/-- The tokens up to the type in a source that assigns a creation to `x`. -/
def assignedNew : List Token :=
  [wordToken [] ['x'], markToken [' '] .assign, newToken]

/-- The tokens between the type of a creation without arguments and what its block holds. -/
def blockOpening : List Token :=
  [markToken [] .openParenthesis, markToken [] .closeParenthesis, markToken [' '] .openBrace]

/-- The source that assigns to `x` what is created of a type, with some text behind the type. -/
def createdSource
    (type behind : String) :
    String :=
  "x = new " ++ type ++ behind

section Reading

variable
  {first : Token}
  {others behind : List Token}

/-- The type of a creation ends before the arguments and the block behind it. -/
theorem readDeclaredType_of_blockOpening
    {labels : Token → Prop}
    {tokens : List Token}
    (type : IsCreatedType labels tokens)
    (inner : List Token) :
    readDeclaredType (tokens ++ (blockOpening ++ inner)) =
      (.named (sourceText tokens), blockOpening ++ inner) := by
  have ends : readTypeTail (blockOpening ++ inner) = (true, blockOpening ++ inner) :=
    readTypeTail_of_mark rfl (by decide) _
  rw [type.readDeclaredType_eq ends rfl]
  rfl

/-- Square brackets behind a type make it that of an array. -/
theorem readDeclaredType_of_openBracket
    {labels : Token → Prop}
    {tokens : List Token}
    (type : IsCreatedType labels tokens)
    (gap : List Char)
    (inner : List Token) :
    (readDeclaredType (tokens ++ markToken gap .openBracket :: inner)).1 = .array := by
  have ends := readTypeTail_of_mark (punctuator?_markToken gap .openBracket) (by decide) inner
  rw [type.readDeclaredType_eq ends rfl]
  rfl

/-- There is no creation of the type of an array. -/
theorem ofExpression?_readCreation_of_array
    (isArray : (readDeclaredType behind).1 = .array)
    (inner : Reader Expression) :
    Creation.ofExpression? (readCreation inner (newToken :: behind)).1 = none := by
  have named := type_ofExpression?_readCreation inner (newToken :: behind)
  rw [List.tail_cons, isArray] at named
  exact Option.map_eq_none_iff.mp named

/-- No expression that begins with `new` and the type of an array is a creation. -/
theorem ofExpression?_read_of_array
    (isArray : (readDeclaredType behind).1 = .array)
    (room : Nat) :
    Creation.ofExpression? ((expressionReader room).read (newToken :: behind)).1 = none := by
  cases room with
  | zero => rfl
  | succ room =>
      have noCreation := ofExpression?_readCreation_of_array isArray (expressionReader room)
      have primary : readPrimary (expressionReader room) (newToken :: behind) =
          readCreation (expressionReader room) (newToken :: behind) :=
        rfl
      change Creation.ofExpression? (readOperation _ _).1 = none
      rw [readOperation, primary]
      split
      next left rest shape =>
        rw [shape] at noCreation
        split
        · rfl
        split
        · exact noCreation
        · rfl

/-- The tokens up to the type are read back before what is no part of the word `new`. -/
theorem areReadBack_assignedNew
    {rest : List Char}
    (ends : EndsRun Character.continuesIdentifier rest) :
    AreReadBack assignedNew rest := by
  have target : (wordToken [] ['x']).IsSpelled := .word isSpaces_nil (by decide +kernel)
  have sign : (markToken [' '] .assign).IsSpelled := .mark isSpaces_one .assign
  have created : newToken.IsSpelled := .word isSpaces_one (by decide +kernel)
  exact ⟨target.isReadBack_word rfl (sign.endsRun_mark rfl rfl (by decide) _ _),
    sign.isReadBack_mark rfl (by decide) (created.endsBefore_word rfl _ _ _),
    created.isReadBack_word rfl ends, trivial⟩

/-- The tokens between the type and what the block holds are read back before anything. -/
theorem areReadBack_blockOpening
    (rest : List Char) :
    AreReadBack blockOpening rest := by
  have opening : (markToken [] .openParenthesis).IsSpelled := .mark isSpaces_nil _
  have closing : (markToken [] .closeParenthesis).IsSpelled := .mark isSpaces_nil _
  have brace : (markToken [' '] .openBrace).IsSpelled := .mark isSpaces_one _
  exact ⟨opening.isReadBack_whole rfl (by decide) _, closing.isReadBack_whole rfl (by decide) _,
    brace.isReadBack_whole rfl (by decide) _, trivial⟩

/-- What a source holds behind the type is read behind the tokens of the type. -/
theorem tokenize_createdSource
    (type : IsCreatedType Token.IsParted (first :: others))
    (spelled : ∀ token ∈ first :: others, token.IsSpelled)
    (spaced : first.gap = [' '])
    {marks inner : List Token}
    {body : String}
    (marksRead : AreReadBack marks body.toList)
    (ends : EndsRun continuesArgument (spelling marks ++ body.toList))
    (tokenized : tokenize body = .ok inner) :
    tokenize (createdSource (sourceText (first :: others))
        (String.ofList (spelling marks) ++ body)) =
      .ok (assignedNew ++ (first :: others ++ (marks ++ inner))) := by
  have typeRead := type.areReadBack spelled ends
  have typeSpelled := spelling_eq_gap_append first others
  rw [spaced] at typeSpelled
  have allRead :
      AreReadBack (assignedNew ++ (first :: others ++ marks)) body.toList := by
    rw [areReadBack_append, areReadBack_append, spelling_append, List.append_assoc]
    refine ⟨areReadBack_assignedNew ?_, typeRead, marksRead⟩
    rw [typeSpelled]
    exact endsRun_cons rfl
  have whole : tokenize (String.ofList body.toList) = .ok inner := by
    rwa [String.ofList_toList]
  have read := tokenize_append_of_areReadBack allRead whole
  have source : spelling (assignedNew ++ (first :: others ++ marks)) ++ body.toList =
      (createdSource (sourceText (first :: others))
        (String.ofList (spelling marks) ++ body)).toList := by
    rw [spelling_append, spelling_append, typeSpelled]
    simp [createdSource, assignedNew, newToken, wordToken, markToken, Punctuator.spelling]
  rw [source, String.ofList_toList] at read
  simpa using read

/-- The first creation of a source that assigns one is that behind its first `new`. -/
theorem creations_assignedNew
    {type : String}
    (declared : (readDeclaredType behind).1 = .named type) :
    ∃ creation later, creations (assignedNew ++ behind) = creation :: later ∧
      creation.type = type := by
  let site : Site := ⟨[markToken [' '] .assign, wordToken [] ['x']], newToken :: behind⟩
  have sites : ∃ others, Site.creationSites (assignedNew ++ behind) = site :: others :=
    ⟨_, rfl⟩
  obtain ⟨others, shape⟩ := sites
  have named : site.creation?.map Creation.type = some type := by
    rw [← site.declaredType?_eq]
    exact site.declaredType?_of_named declared
  obtain ⟨creation, created, isType⟩ := Option.map_eq_some_iff.mp named
  exact ⟨creation, others.filterMap Site.creation?,
    by rw [creations, shape, List.filterMap_cons_some created], isType⟩

end Reading

/--
A type of any complexity behind a `new` is read whole: a creation of it is the first one of
the source, and it is found by the text of the type.  With a square bracket behind the type
there is no creation at that `new`.
-/
theorem createdType_readWhole
    {first : Token}
    {others inner : List Token}
    {body : String}
    (type : IsCreatedType Token.IsParted (first :: others))
    (spelled : ∀ token ∈ first :: others, token.IsSpelled)
    (spaced : first.gap = [' '])
    (tokenized : tokenize body = .ok inner) :
    (∃ creation later,
      tokenize (createdSource (sourceText (first :: others)) ("() \x7b" ++ body)) =
          .ok (assignedNew ++ (first :: others ++ (blockOpening ++ inner))) ∧
        readDeclaredType (first :: others ++ (blockOpening ++ inner)) =
          (.named (sourceText (first :: others)), blockOpening ++ inner) ∧
        creations (assignedNew ++ (first :: others ++ (blockOpening ++ inner))) =
          creation :: later ∧
        creation.type = sourceText (first :: others) ∧
        findCreation? (assignedNew ++ (first :: others ++ (blockOpening ++ inner)))
          (sourceText (first :: others)) = some creation) ∧
      tokenize (createdSource (sourceText (first :: others)) ("[" ++ body)) =
          .ok (assignedNew ++ (first :: others ++ markToken [] .openBracket :: inner)) ∧
        (∀ before,
          Site.creation?
            ⟨before, newToken :: (first :: others ++ markToken [] .openBracket :: inner)⟩ = none) ∧
        ∀ room,
          Creation.ofExpression? ((expressionReader room).read
            (newToken :: (first :: others ++ markToken [] .openBracket :: inner))).1 = none := by
  have declared := readDeclaredType_of_blockOpening type inner
  have isArray := readDeclaredType_of_openBracket type [] inner
  obtain ⟨creation, later, listed, isType⟩ := creations_assignedNew (congrArg Prod.fst declared)
  have bracketRead : AreReadBack [markToken [] .openBracket] body.toList := by
    have bracket : (markToken [] .openBracket).IsSpelled := .mark isSpaces_nil _
    exact ⟨bracket.isReadBack_whole rfl (by decide) _, trivial⟩
  have blockText : String.ofList (spelling blockOpening) = "() \x7b" := by
    decide
  have bracketText : String.ofList (spelling [markToken [] .openBracket]) = "[" := by
    decide
  have block := tokenize_createdSource type spelled spaced (areReadBack_blockOpening body.toList)
    (endsRun_cons (by decide)) tokenized
  have bracketed := tokenize_createdSource type spelled spaced bracketRead
    (endsRun_cons (by decide)) tokenized
  rw [blockText] at block
  rw [bracketText] at bracketed
  refine ⟨⟨creation, later, block, declared, listed, isType, ?_⟩, bracketed,
    fun before => ofExpression?_readCreation_of_array isArray _,
    ofExpression?_read_of_array isArray⟩
  rw [findCreation?_eq_find?, listed, List.find?_cons_of_pos (by simp [isType])]

/-- The tokens of `Box< A.B<(int, C?[,])>>?` behind a space. -/
def nestedType : List Token :=
  wordToken [' '] ['B', 'o', 'x'] ::
    ([markToken [] .less, wordToken [' '] ['A'], markToken [] .dot, wordToken [] ['B'],
      markToken [] .less, markToken [] .openParenthesis, wordToken [] ['i', 'n', 't'],
      markToken [] .comma, wordToken [' '] ['C'], markToken [] .question,
      markToken [] .openBracket, markToken [] .comma, markToken [] .closeBracket,
      markToken [] .closeParenthesis, markToken [] .greater, markToken [] .greater,
      markToken [] .question])

/-- The nested type is one that a creation names. -/
theorem isCreatedType_nestedType :
    IsCreatedType Token.IsParted nestedType := by
  have array : IsType Token.IsParted .argument
      ([wordToken [' '] ['C']] ++ [markToken [] .question] ++
        markToken [] .openBracket :: ([markToken [] .comma] ++ [markToken [] .closeBracket])) :=
    .plain (.array (.nullable (.named (.word rfl)) rfl) rfl (by simp) rfl)
  have integer : IsType Token.IsParted .argument [wordToken [] ['i', 'n', 't']] :=
    .plain (.named (.word rfl))
  have tuple := IsType.tuple (punctuator?_markToken [] .openParenthesis)
    (.several (.unlabelled integer) (punctuator?_markToken [] .comma)
      (.single (.unlabelled array)))
    (punctuator?_markToken [] .closeParenthesis)
  have qualified : IsType Token.IsParted .name
      ([wordToken [' '] ['A']] ++ [markToken [] .dot, wordToken [] ['B']]) :=
    .qualified (.word rfl) (.inl rfl) rfl
  have inside := qualified.generic (punctuator?_markToken [] .less)
    (.single (.unlabelled (.plain tuple))) (punctuator?_markToken [] .greater)
  have box : IsType Token.IsParted .name [wordToken [' '] ['B', 'o', 'x']] :=
    .word rfl
  have outside := box.generic (punctuator?_markToken [] .less)
    (.single (.unlabelled (.plain (.named inside)))) (punctuator?_markToken [] .greater)
  exact .nullable outside (punctuator?_markToken [] .question)

/-- The creation of the nested type is the first of its source, and its type stays as written. -/
theorem createdType_readWhole_nestedType :
    IsCreatedType Token.IsParted nestedType ∧
      (∀ token ∈ nestedType, token.IsSpelled) ∧
      sourceText nestedType = "Box< A.B<(int, C?[,])>>?" ∧
      tokenize " \x7d;" = .ok [markToken [' '] .closeBrace, markToken [] .semicolon] ∧
      ∃ creation later,
        creations (assignedNew ++ (nestedType ++
            (blockOpening ++ [markToken [' '] .closeBrace, markToken [] .semicolon]))) =
          creation :: later ∧
          creation.type = "Box< A.B<(int, C?[,])>>?" := by
  have words : ∀ word ∈ [['B', 'o', 'x'], ['A'], ['B'], ['i', 'n', 't'], ['C']], IsWord word := by
    decide +kernel
  have spelled : ∀ token ∈ nestedType, token.IsSpelled := by
    simp only [List.forall_mem_cons] at words
    simp [nestedType, Token.IsSpelled.mark isSpaces_nil, Token.IsSpelled.word isSpaces_nil,
      Token.IsSpelled.word isSpaces_one, words]
  have text : sourceText nestedType = "Box< A.B<(int, C?[,])>>?" := by
    decide
  have body : tokenize " \x7d;" = .ok [markToken [' '] .closeBrace, markToken [] .semicolon] := by
    rw [tokenize_eq_ok_iff]
    decide +kernel
  obtain ⟨⟨creation, later, _, _, listed, isType, _⟩, _⟩ :=
    createdType_readWhole isCreatedType_nestedType spelled rfl body
  exact ⟨isCreatedType_nestedType, spelled, text, body, creation, later, listed,
    isType.trans text⟩

end InitializerJson
