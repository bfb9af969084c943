import InitializerJson.Proofs.Expression.Printing
import InitializerJson.Proofs.Expression.WrittenTokens

namespace InitializerJson

open Lexical Character

/-!
# Chains are read back

A chain of words is spelled by its words and dots.  Reading it goes from its head
over all its members, whatever expression it is a part of.
-/

/-- What makes a punctuator longer begins a punctuator itself. -/
theorem beginsMark_of_continuations :
    ∀ mark ∈ Punctuator.all, mark.continuations.all Punctuator.beginsMark = true := by
  decide +kernel

/-- A punctuator before a word is read as that punctuator. -/
theorem endsBefore_of_isWord
    {word rest : List Char}
    (isWord : IsWord word)
    (mark : Punctuator) :
    mark.EndsBefore (word ++ rest) := by
  obtain ⟨first, others, rfl, begins⟩ := isWord.exists_first
  have notDigit : first.isDigit = false := by
    rcases begins with letter | ⟨rfl, _⟩
    · exact isDigit_of_begins letter
    · decide
  have beginsNone : Punctuator.beginsMark first = false := by
    rcases begins with letter | ⟨rfl, _⟩
    · simp [Punctuator.beginsMark, letter]
    · decide
  refine ⟨?_, fun _ => endsRun_cons notDigit⟩
  intro next member continued
  cases member
  have beginsOne := beginsMark_of_continuations mark (Punctuator.mem_all mark)
  rw [List.all_eq_true.mp beginsOne first continued] at beginsNone
  cases beginsNone

/-- A dot and a word behind a text are spelled by their tokens. -/
theorem spells_member
    {follow : Follow}
    {text word : List Char}
    {tokens : List Token}
    (spells : Spells follow text tokens)
    (admits : ∀ rest, follow ('.' :: rest))
    (isWord : IsWord word) :
    Spells (EndsRun continuesIdentifier) (text ++ '.' :: word)
      (tokens ++ [markToken [] .dot, wordToken [] word]) := by
  have dot : Spells Punctuator.dot.EndsBefore ['.'] [markToken [] .dot] :=
    spells_mark .dot isSpaces_nil (by decide)
  have behindDot : Spells (EndsRun continuesIdentifier) ('.' :: word)
      [markToken [] .dot, wordToken [] word] :=
    dot.append (spells_word isSpaces_nil isWord) fun _ _ => endsBefore_of_isWord isWord .dot
  exact spells.append behindDot fun rest _ => admits _

/-- The tokens of a chain: the word at its head, and those behind it. -/
structure WrittenChain
    (gap text : List Char)
    (bare : Bool)
    (word : List Char)
    (others : List Token) :
    Prop where
  spells : Spells (EndsRun continuesIdentifier) (gap ++ text) (wordToken gap word :: others)
  unreserved : isReserved (String.ofList word) = false
  isBare : bare = others.isEmpty
  unlabelled :
    ∀ rest, startsWith .colon rest = false → startsWith .colon (others ++ rest) = false
  reads :
    ∀ inner start rest,
      readChain inner start .member (others ++ rest) = readChain inner start .member rest

/-- Every chain has tokens behind every gap of spaces. -/
theorem ChainText.exists_written
    {bare : Bool}
    {text gap : List Char}
    (chain : ChainText bare text)
    (spaces : IsSpaces gap) :
    ∃ word others, WrittenChain gap text bare word others := by
  induction chain with
  | @word word isWord unreserved =>
      exact ⟨word, [],
        { spells := spells_word spaces isWord
          unreserved := unreserved
          isBare := rfl
          unlabelled := fun _ other => other
          reads := fun _ _ _ => rfl }⟩
  | @member bare chain word _ isWord hypothesis =>
      obtain ⟨head, others, written⟩ := hypothesis
      refine ⟨head, others ++ [markToken [] .dot, wordToken [] word], ?_,
        written.unreserved, by simp, ?_, ?_⟩
      · have spells :=
          spells_member written.spells (fun rest => endsRun_cons (by decide)) isWord
        rw [List.append_assoc] at spells
        exact spells
      · intro rest _
        rw [List.append_assoc]
        exact written.unlabelled _ (by simp)
      · intro inner start rest
        rw [List.append_assoc, written.reads]
        conv => lhs; rw [readChain]
        simp [startsMember]

namespace WrittenChain

variable
  {gap text word : List Char}
  {bare : Bool}
  {others : List Token}

/-- The source text of a chain's tokens is the chain. -/
theorem sourceText_eq
    (written : WrittenChain gap text bare word others) :
    sourceText (wordToken gap word :: others) = String.ofList text :=
  sourceText_of_spelling written.spells.spelled

/-- An unreserved word begins a chain. -/
theorem readPrimary_eq
    (written : WrittenChain gap text bare word others)
    (inner : Reader Expression)
    (rest : List Token) :
    readPrimary inner (wordToken gap word :: others ++ rest) =
      readChain inner (wordToken gap word :: others ++ rest) .member rest := by
  have unreserved := written.unreserved
  have other : ∀ reserved, isReserved reserved = true → String.ofList word ≠ reserved := by
    rintro reserved isIn rfl
    rw [isIn] at unreserved
    cases unreserved
  have begins : beginsChain (String.ofList word) = true := by
    simp [beginsChain, unreserved]
  have chained :
      readWord inner (String.ofList word) (wordToken gap word :: (others ++ rest)) =
        readChain inner (wordToken gap word :: (others ++ rest)) .member (others ++ rest) := by
    simp [readWord, other "null" (by decide), other "true" (by decide),
      other "false" (by decide), other "default" (by decide), other "new" (by decide), begins]
  exact chained.trans (written.reads _ _ _)

end WrittenChain

/-- A chain ends before what neither a member, a call nor an index begins with. -/
theorem readChain_of_end
    {inner : Reader Expression}
    {start rest : List Token}
    {last : ChainEnd}
    (noMember : startsMember rest = false)
    (noCall : startsWith .openParenthesis rest = false)
    (noIndex : startsWith .openBracket rest = false) :
    readChain inner start last rest = (last.toExpression start rest, rest) := by
  rw [readChain]
  simp [noMember, noCall, noIndex]

/-- A chain goes on behind the arguments of a call. -/
theorem readChain_of_call
    {inner : Reader Expression}
    {gap : List Char}
    {tokens behind : List Token}
    {arguments : List Expression}
    (reading : readArguments inner tokens = (arguments, behind))
    (start : List Token)
    (last : ChainEnd) :
    readChain inner start last (markToken gap .openParenthesis :: tokens) =
      readChain inner start (.call (markToken gap .openParenthesis :: tokens) arguments)
        behind := by
  conv => lhs; rw [readChain]
  simp [startsMember, reading]

/-- No member begins where an expression ends. -/
theorem startsMember_of_atExpressionEnd
    {rest : List Token}
    (ends : atExpressionEnd rest = true) :
    startsMember rest = false := by
  have noDot : startsWith .dot rest = false :=
    startsWith_of_atExpressionEnd ends rfl
  have noConditional : startsWith .conditionalDot rest = false :=
    startsWith_of_atExpressionEnd ends rfl
  have noScope : startsWith .scope rest = false :=
    startsWith_of_atExpressionEnd ends rfl
  simp [startsMember, noDot, noConditional, noScope]

end InitializerJson
