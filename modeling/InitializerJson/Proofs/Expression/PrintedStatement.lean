import InitializerJson.Proofs.Expression.PrintedReading
import InitializerJson.Site

namespace InitializerJson

open Lexical Character Expression

/-!
# Printed assignments are found

A source that assigns a printed expression to an unreserved word is read as
tokens, and the assignment that is found in it is the one that was printed.
-/

/-- The statement that assigns a text to a name. -/
def assignmentStatement
    (name : String)
    (value : List Char) :
    List Char :=
  name.toList ++ ([' ', '=', ' '] ++ (value ++ [';']))

/-- The tokens of a statement that assigns to a name. -/
def statementTokens
    (name : String)
    (value : List Token) :
    List Token :=
  wordToken [] name.toList :: markToken [' '] .assign :: (value ++ [markToken [] .semicolon])

/-- A statement is read as its tokens when the assigned value is spelled by its own. -/
theorem tokenize_assignmentStatement
    {name : String}
    {text : List Char}
    {value : List Token}
    (isWord : IsWord name.toList)
    (spells : Spells Closes ([' '] ++ text) value) :
    tokenize (String.ofList (assignmentStatement name text)) =
      .ok (statementTokens name value) := by
  have semicolon : Spells Anything [';'] [markToken [] .semicolon] :=
    spells_whole .semicolon isSpaces_nil (by decide)
  have sign : Spells (EndsRun fun character => character == '=' || character == '>')
      ([' '] ++ ['=']) [markToken [' '] .assign] :=
    spells_mark_of_endsRun .assign isSpaces_one (by decide) (by decide) (by decide)
  have closed := spells.append semicolon fun rest _ => ⟨';', by decide, rest, rfl⟩
  have behind := sign.append closed fun _ _ => endsRun_cons (by decide)
  have whole :=
    (spells_word isSpaces_nil isWord).append behind fun _ _ => endsRun_cons (by decide)
  apply tokenize_of_areReadBack
  · rw [String.toList_ofList]
    simpa [assignmentStatement, statementTokens] using whole.spelled
  · exact whole.readBack [] trivial

/-- The first assignment to a name is found where a source begins with it. -/
theorem findAssignment?_statementTokens
    {name : String}
    (unreserved : isReserved name = false)
    (value : List Token) :
    findAssignment? (statementTokens name value) name =
      some ⟨name, (readExpression (value ++ [markToken [] .semicolon])).1⟩ := by
  have begins :
      Site.beginsAssignment ⟨[], statementTokens name value⟩ = true := by
    simp [Site.beginsAssignment, Site.word?, statementTokens, unreserved, Site.separatesName,
      Site.declaresMember, Site.enclosingOpener?]
  have here : Site.word? ⟨[], statementTokens name value⟩ = some name := by
    simp [Site.word?, statementTokens]
  have first :
      ∃ others, Site.all (statementTokens name value) =
        ⟨[], statementTokens name value⟩ :: others :=
    ⟨_, rfl⟩
  obtain ⟨others, sites⟩ := first
  rw [findAssignment?, sites, List.filter_cons_of_pos (by simp [here]),
    List.find?_cons_of_pos begins]
  simp [Site.assignment, Site.word?, statementTokens]

/--
The assignment of a printed canonical expression to an unreserved word is read
back as it was printed, all of its parts included.
-/
theorem findAssignment?_assignmentStatement
    {name : String}
    {expression : Expression}
    (isWord : IsWord name.toList)
    (unreserved : isReserved name = false)
    (canonical : expression.Canonical)
    (shallow : expression.layers ≤ nestingLimit) :
    ∃ tokens,
      tokenize (String.ofList (assignmentStatement name expression.print)) = .ok tokens ∧
        (findAssignment? tokens name).map Assignment.toExpression =
          some (.assignment name true expression) := by
  obtain ⟨first, others, written⟩ := canonical.isWritten [' '] isSpaces_one
  refine ⟨statementTokens name (first :: others),
    tokenize_assignmentStatement isWord written.spells, ?_⟩
  have read := written.reads nestingLimit [markToken [] .semicolon] shallow rfl
  rw [findAssignment?_statementTokens unreserved, readExpression, read]
  rfl

/-- A creation with a generic type, a call among its arguments and entries of several kinds. -/
def tableCreation : Expression :=
  .creation "Table<int[]>"
    [.invocation "row.of" [.literal (.verbatim "default"), .name "@new"]]
    (some
      [.assignment "key" true (.targetTypedCreation [] (some [])),
        .assignment "[-1.50e3]" false
          (.initializer [.literal .null, .literal (.string "\"\n")])])

/-- The type of the table is a generic one. -/
theorem typeText_table :
    TypeText .alone "Table<int[]>".toList := by
  have argument : TypeText .argument (['i', 'n', 't'] ++ ['[', ']']) :=
    .array (.argument (.word (by decide +kernel)))
  have table : TypeText .alone ['T', 'a', 'b', 'l', 'e'] :=
    .word (by decide +kernel)
  exact TypeText.generic table (by simp) (List.forall_mem_singleton.mpr argument)

/-- The callee among the arguments of the table is a chain. -/
theorem chainText_callee :
    ChainText false "row.of".toList := by
  have head : ChainText true ['r', 'o', 'w'] :=
    .word (by decide +kernel) (by decide +kernel)
  exact ChainText.member head (by decide +kernel)

/-- The creation of the table is canonical. -/
theorem canonical_tableCreation :
    tableCreation.Canonical := by
  have name : Expression.Canonical (.name "@new") :=
    .name (.word (by decide +kernel) (by decide +kernel))
  have call : Expression.Canonical
      (.invocation "row.of" [.literal (.verbatim "default"), .name "@new"]) :=
    .invocation chainText_callee (by
      simp only [List.mem_cons, List.not_mem_nil, or_false]
      rintro argument (rfl | rfl)
      · exact .literal .default
      · exact name)
  have key : Expression.Canonical (.assignment "key" true (.targetTypedCreation [] (some []))) :=
    .assignment (.word (by decide +kernel) (by decide +kernel))
      (.targetTypedCreation (by simp) (by simp))
  have index : Literal.IsCanonical (.number (.real "-1.50e3")) :=
    .number ⟨"1.50E3f", true, by decide +kernel⟩
  have block : Expression.Canonical
      (.initializer [.literal .null, .literal (.string "\"\n")]) :=
    .initializer (by
      simp only [List.mem_cons, List.not_mem_nil, or_false]
      rintro entry (rfl | rfl)
      · exact .literal .null
      · exact .literal (.string _))
  have indexed : Expression.Canonical
      (.assignment "[-1.50e3]" false
        (.initializer [.literal .null, .literal (.string "\"\n")])) :=
    .indexAssignment index rfl block
  refine .creation typeText_table (List.forall_mem_singleton.mpr call) ?_
  intro entries shape
  cases shape
  simp only [List.mem_cons, List.not_mem_nil, or_false]
  rintro entry (rfl | rfl)
  · exact key
  · exact indexed

/-- The creation of the table is read back from its assignment. -/
theorem findAssignment?_tableCreation :
    IsWord "rows".toList ∧
      isReserved "rows" = false ∧
      tableCreation.Canonical ∧
      tableCreation.layers ≤ nestingLimit ∧
      ∃ tokens,
        tokenize (String.ofList (assignmentStatement "rows" tableCreation.print)) = .ok tokens ∧
          (findAssignment? tokens "rows").map Assignment.toExpression =
            some (.assignment "rows" true tableCreation) := by
  have isWord : IsWord "rows".toList := by
    decide +kernel
  have unreserved : isReserved "rows" = false := by
    decide +kernel
  have shallow : tableCreation.layers ≤ nestingLimit := by
    decide
  exact ⟨isWord, unreserved, canonical_tableCreation, shallow,
    findAssignment?_assignmentStatement isWord unreserved canonical_tableCreation shallow⟩

end InitializerJson
