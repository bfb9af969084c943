import InitializerJson.Extraction.Lookup
import InitializerJson.Proofs.Expression.PrintedStatement
import InitializerJson.Proofs.Value.Source

namespace InitializerJson

open Lexical Value

/-!
# Extraction from printed sources

A source that assigns the creation of some members to a word is found by the
word and by the type of the creation.  What is extracted from it is the JSON
text of the object of the members.
-/

/-- The source that assigns a creation of some members to a name. -/
def assignedSource
    (types : ContainerTypes)
    (target type : String)
    (members : List (String × Value)) :
    String :=
  String.ofList (assignmentStatement target (creationText type (memberSources types members)))

/-- A creation is found by its type where it is the first value that is assigned. -/
theorem findCreation?_statementTokens
    {name type : String}
    {arguments : List Expression}
    {block : Option (List Expression)}
    {gap : List Char}
    {others : List Token}
    (unreserved : isReserved name = false)
    (written : WrittenCreation gap type arguments block others)
    (shallow : (Expression.creation type arguments block).layers ≤ nestingLimit + 1) :
    findCreation? (statementTokens name (wordToken gap ['n', 'e', 'w'] :: others)) type =
      some ⟨type, arguments, block⟩ := by
  have notNew : name ≠ "new" := by
    rintro rfl
    exact absurd unreserved (by decide)
  have sites :
      ∃ target sign later,
        Site.all (statementTokens name (wordToken gap ['n', 'e', 'w'] :: others)) =
            target :: sign ::
              ⟨[markToken [' '] .assign, wordToken [] name.toList],
                wordToken gap ['n', 'e', 'w'] :: (others ++ [markToken [] .semicolon])⟩ ::
              later ∧
          target.word? = some name ∧
          sign.word? = none := by
    refine ⟨_, _, _, rfl, ?_, rfl⟩
    simp [Site.word?]
  obtain ⟨target, sign, later, all, targetWord, signWord⟩ := sites
  have created := written.creates nestingLimit [markToken [] .semicolon] shallow rfl
  rw [findCreation?, Site.creationSites, all,
    List.filter_cons_of_neg (by simpa [targetWord] using notNew),
    List.filter_cons_of_neg (by simp [signWord]),
    List.filter_cons_of_pos (by rfl),
    List.filter_cons_of_pos (by simp [Site.declaredType?, written.declares])]
  simp [Site.creation?, created, Creation.ofExpression?]

/-- The creation of some members opens as many layers as their object. -/
theorem layers_creation_memberExpressions
    (types : ContainerTypes)
    (type : String)
    (members : List (String × Value)) :
    (Expression.creation type [] (some (memberExpressions types members))).layers =
      (object members).layers := by
  rw [Expression.layers, Expression.layersOfBlock, Expression.layersOfAll, Nat.zero_max,
    layersOfAll_memberExpressions (fun member _ => layers_toExpression types member.2),
    Value.layers]

/-- The creation of some members is printed with their source texts. -/
theorem print_creation_memberExpressions
    (types : ContainerTypes)
    (type : String)
    (members : List (String × Value)) :
    (Expression.creation type [] (some (memberExpressions types members))).print =
      creationText type (memberSources types members) := by
  rw [Expression.print, Expression.printBlock,
    printAll_memberExpressions (fun member _ => print_toExpression types member.2)]
  rfl

/-- The creation of writable members has tokens. -/
theorem exists_writtenCreation_memberExpressions
    {types : ContainerTypes}
    {type : String}
    {members : List (String × Value)}
    (areTypes : types.AreTypes)
    (isType : TypeText .alone type.toList)
    (keys : AreKeys members)
    (writable : MembersAreWritable members)
    {gap : List Char}
    (spaces : IsSpaces gap) :
    ∃ others, WrittenCreation gap type [] (some (memberExpressions types members)) others := by
  have each : ∀ member ∈ members, (toExpression types member.2).Canonical := by
    intro member present
    exact canonical_toExpression areTypes (membersAreWritable_iff.mp writable member present)
  refine exists_writtenCreation isType (List.forall_mem_nil _) ?_ spaces
  intro entries shape entry member
  cases shape
  exact (canonical_of_mem_memberExpressions keys each entry member).isWritten

/-- The creation of writable members is found in its source in either way. -/
theorem findBlock_assignedSource
    {types : ContainerTypes}
    {target type : String}
    {members : List (String × Value)}
    (areTypes : types.AreTypes)
    (isType : TypeText .alone type.toList)
    (isWord : IsWord target.toList)
    (unreserved : isReserved target = false)
    (keys : AreKeys members)
    (writable : MembersAreWritable members) :
    ∃ tokens,
      tokenize (assignedSource types target type members) = .ok tokens ∧
        ((object members).layers ≤ nestingLimit →
          findBlock tokens target .assignment = .found (memberExpressions types members)) ∧
        ((object members).layers ≤ nestingLimit + 1 →
          findBlock tokens type .typeName = .found (memberExpressions types members)) := by
  obtain ⟨others, written⟩ :=
    exists_writtenCreation_memberExpressions areTypes isType keys writable isSpaces_one
  refine ⟨statementTokens target (wordToken [' '] ['n', 'e', 'w'] :: others), ?_, ?_, ?_⟩
  · rw [assignedSource, ← print_creation_memberExpressions]
    exact tokenize_assignmentStatement isWord written.spells
  · intro shallow
    rw [← layers_creation_memberExpressions types type] at shallow
    have read :
        (expressionReader nestingLimit).read
            (wordToken [' '] ['n', 'e', 'w'] :: others ++ [markToken [] .semicolon]) =
          (.creation type [] (some (memberExpressions types members)),
            [markToken [] .semicolon]) :=
      reads_of_readPrimary written.creates nestingLimit _ shallow rfl
    rw [findBlock, findAssignment?_statementTokens unreserved, readExpression, read]
    rfl
  · intro shallow
    rw [← layers_creation_memberExpressions types type] at shallow
    rw [findBlock, findCreation?_statementTokens unreserved written shallow]
    rfl

/--
The object of writable members is extracted from the source that they are
printed in: by the word it is assigned to, and by the type that it names, as
long as its layers do not run out.
-/
theorem extractJson_assignedSource
    {types : ContainerTypes}
    {target type : String}
    {members : List (String × Value)}
    (areTypes : types.AreTypes)
    (isType : TypeText .alone type.toList)
    (isWord : IsWord target.toList)
    (unreserved : isReserved target = false)
    (keys : AreKeys members)
    (writable : MembersAreWritable members)
    (layout : Layout) :
    ((object members).layers ≤ nestingLimit →
        extractJson (assignedSource types target type members)
            { identifier := target, addressing := .assignment, layout := layout } =
          .ok (.found ((object members).render layout))) ∧
      ((object members).layers ≤ nestingLimit + 1 →
        extractJson (assignedSource types target type members)
            { identifier := type, addressing := .typeName, layout := layout } =
          .ok (.found ((object members).render layout))) := by
  obtain ⟨tokens, tokenized, byTarget, byType⟩ :=
    findBlock_assignedSource areTypes isType isWord unreserved keys writable
  have root := ofRoot_memberExpressions types keys writable
  constructor
  · intro shallow
    rw [extractJson, extractValue, tokenized]
    simp [Except.map, byTarget shallow, Lookup.map, root]
  · intro shallow
    rw [extractJson, extractValue, tokenized]
    simp [Except.map, byType shallow, Lookup.map, root]

/-- The types of the containers of the order: a generic one, and a qualified one. -/
def orderTypes : ContainerTypes where
  list := "List<int>"
  object := "Data.Map"

/-- The members of an order, nested and plain, with an empty list and a negative number. -/
def orderMembers : List (String × Value) :=
  [
    ("Id", number (.integer (-12))),
    ("Rate", number (.real "1.50e-3")),
    ("@note", string "a \"b\" \\\n"),
    ("Tags", list []),
    ("Lines", list
      [null, object [("Open", bool true), ("Inner", list [number (.integer 7)])]])
  ]

/-- The types of the containers of the order are types. -/
theorem areTypes_orderTypes :
    orderTypes.AreTypes where
  list := by
    have argument : TypeText .argument ['i', 'n', 't'] :=
      .argument (.word (by decide +kernel))
    have list : TypeText .alone ['L', 'i', 's', 't'] :=
      .word (by decide +kernel)
    exact TypeText.generic list (by simp) (List.forall_mem_singleton.mpr argument)
  object := by
    have qualifier : TypeText .alone ['D', 'a', 't', 'a'] :=
      .word (by decide +kernel)
    exact TypeText.member qualifier (by decide +kernel)

/-- The members of the order are writable. -/
theorem membersAreWritable_orderMembers :
    MembersAreWritable orderMembers := by
  have rate : Number.IsOfLiteral (.real "1.50e-3") :=
    ⟨"1.50E-3f", false, by decide +kernel⟩
  have lineKeys :
      AreKeys [("Open", bool true), ("Inner", list [number (.integer 7)])] :=
    { nodup := by decide +kernel
      isWord := by decide +kernel
      unreserved := by decide +kernel }
  simp [orderMembers, MembersAreWritable, IsWritable, ItemsAreWritable, Number.IsWritable,
    rate, lineKeys]

/-- The order is extracted from its printed source, by its name and by its type. -/
theorem extractJson_orderMembers :
    orderTypes.AreTypes ∧
      TypeText .alone "Order".toList ∧
      IsWord "Body".toList ∧
      isReserved "Body" = false ∧
      AreKeys orderMembers ∧
      MembersAreWritable orderMembers ∧
      extractJson (assignedSource orderTypes "Body" "Order" orderMembers)
          { identifier := "Body", addressing := .assignment, layout := .compact } =
        .ok (.found ((object orderMembers).render .compact)) ∧
      extractJson (assignedSource orderTypes "Body" "Order" orderMembers)
          { identifier := "Order", addressing := .typeName, layout := .compact } =
        .ok (.found ((object orderMembers).render .compact)) := by
  have isType : TypeText .alone "Order".toList :=
    .word (by decide +kernel)
  have isWord : IsWord "Body".toList := by
    decide +kernel
  have unreserved : isReserved "Body" = false := by
    decide +kernel
  have keys : AreKeys orderMembers :=
    { nodup := by decide +kernel
      isWord := by decide +kernel
      unreserved := by decide +kernel }
  have shallow : (object orderMembers).layers ≤ nestingLimit := by
    decide +kernel
  obtain ⟨byTarget, byType⟩ :=
    extractJson_assignedSource areTypes_orderTypes isType isWord unreserved keys
      membersAreWritable_orderMembers .compact
  exact ⟨areTypes_orderTypes, isType, isWord, unreserved, keys,
    membersAreWritable_orderMembers, byTarget shallow, byType (Nat.le_succ_of_le shallow)⟩

end InitializerJson
