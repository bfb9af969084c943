import InitializerJson.Proofs.Expression.Unformatted

namespace InitializerJson

open Lexical

/-!
# Expressions are read alike from unformatted tokens

Each reader is followed on the tokens as written and on the same tokens without
their formatting.  Both readings make the same choices and leave the same tokens
behind, and their results differ in texts from the source only.

The target of an assignment is such a text, and data depends on it where it is a
single identifier.  Such a target is written with one word, which unformatted
tokens keep.
-/

/-- A reader reads unformatted tokens like the tokens as written. -/
def IgnoresFormatting
    (reader : Reader Expression) :
    Prop :=
  ∀ tokens, ReadsLike Expression.unformatted (reader.read (tokens.map Token.unformatted))
    (reader.read tokens)

/-- Expressions of no known form are alike, whatever their texts. -/
theorem unsupportedUpTo_like
    (start others rest : List Token) :
    ReadsLike Expression.unformatted
      (unsupportedUpTo start (rest.map Token.unformatted)) (unsupportedUpTo others rest) :=
  ⟨rfl, rfl⟩

/-- What is passed over is no name. -/
theorem isName_readUnsupported
    (tokens : List Token) :
    (readUnsupported tokens).1.isName = false := by
  unfold readUnsupported
  split
  · rfl
  · split <;> rfl

/-- A numeral is no name. -/
theorem isName_numberUpTo
    (text : String)
    (negative : Bool)
    (start rest : List Token) :
    (numberUpTo text negative start rest).1.isName = false := by
  unfold numberUpTo
  split <;> rfl

/-- What begins with a minus sign is no name. -/
theorem isName_readNegative
    (tokens : List Token) :
    (readNegative tokens).1.isName = false := by
  unfold readNegative
  split
  · exact isName_readUnsupported tokens
  · split
    · exact isName_numberUpTo _ true tokens _
    · exact isName_readUnsupported tokens

section Lists

variable
  {inner : Reader Expression}
  (ignores : IgnoresFormatting inner)
  (tokens : List Token)

include ignores

/-- Arguments are read alike. -/
theorem readArgumentList_like :
    ReadsLike (List.map Expression.unformatted)
      (readArgumentList inner (tokens.map Token.unformatted)) (readArgumentList inner tokens) := by
  fun_induction readArgumentList inner tokens with
  | case1 tokens first behind reading comma others hypothesis =>
      have here := ignores (skipLabel tokens)
      rw [reading] at here
      rw [readArgumentList_step, skipLabel_unformatted]
      simp only [here.rest, startsWith_unformatted, comma, if_true, ← List.map_tail]
      exact ⟨by rw [List.map_cons, List.map_cons, here.result, hypothesis.result], hypothesis.rest⟩
  | case2 tokens first behind reading comma =>
      have here := ignores (skipLabel tokens)
      rw [reading] at here
      rw [readArgumentList_step, skipLabel_unformatted]
      simp only [here.rest, startsWith_unformatted, comma, skipOptional_unformatted]
      exact ⟨congrArg (· :: []) here.result, rfl⟩

/-- Arguments in parentheses are read alike. -/
theorem readArguments_like :
    ReadsLike (List.map Expression.unformatted)
      (readArguments inner (tokens.map Token.unformatted)) (readArguments inner tokens) := by
  unfold readArguments
  rw [startsWith_unformatted]
  split
  · exact ⟨rfl, List.map_tail.symm⟩
  · exact readArgumentList_like ignores tokens

/-- Entries are read alike. -/
theorem readEntries_like :
    ReadsLike (List.map Expression.unformatted)
      (readEntries inner (tokens.map Token.unformatted)) (readEntries inner tokens) := by
  fun_induction readEntries inner tokens with
  | case1 tokens empty =>
      rw [readEntries_step, List.isEmpty_map, if_pos empty]
      exact ⟨rfl, rfl⟩
  | case2 tokens empty closed =>
      rw [readEntries_step, List.isEmpty_map, if_neg empty, startsWith_unformatted, if_pos closed]
      exact ⟨rfl, List.map_tail.symm⟩
  | case3 tokens empty closed first behind reading comma others hypothesis =>
      have here := ignores tokens
      rw [reading] at here
      rw [readEntries_step, List.isEmpty_map, if_neg empty, startsWith_unformatted, if_neg closed]
      simp only [here.rest, startsWith_unformatted, comma, if_true, ← List.map_tail]
      exact ⟨by rw [List.map_cons, List.map_cons, here.result, hypothesis.result], hypothesis.rest⟩
  | case4 tokens empty closed first behind reading comma =>
      have here := ignores tokens
      rw [reading] at here
      rw [readEntries_step, List.isEmpty_map, if_neg empty, startsWith_unformatted, if_neg closed]
      simp only [here.rest, startsWith_unformatted, comma, skipOptional_unformatted]
      exact ⟨congrArg (· :: []) here.result, rfl⟩

/-- A block that may be absent is read alike. -/
theorem readBlock?_like :
    ReadsLike (Option.map (List.map Expression.unformatted))
      (readBlock? inner (tokens.map Token.unformatted)) (readBlock? inner tokens) := by
  unfold readBlock?
  rw [startsWith_unformatted, ← List.map_tail]
  split
  · have entries := readEntries_like ignores tokens.tail
    exact ⟨congrArg some entries.result, entries.rest⟩
  · exact ⟨rfl, rfl⟩

/-- Arguments that may be absent are read alike. -/
theorem readOptionalArguments_like :
    ReadsLike (List.map Expression.unformatted)
      (readOptionalArguments inner (tokens.map Token.unformatted))
      (readOptionalArguments inner tokens) := by
  unfold readOptionalArguments
  rw [startsWith_unformatted, ← List.map_tail]
  split
  · exact readArguments_like ignores tokens.tail
  · exact ⟨rfl, rfl⟩

/-! ## Creations and chains -/

/-- A creation of a declared type is read alike behind its type. -/
theorem readCreation_like_of_type
    {unformattedType type : DeclaredType}
    {rest : List Token}
    (sameType : unformattedType.unformatted = type.unformatted) :
    ReadsLike Expression.unformatted
      (match (unformattedType, rest.map Token.unformatted) with
      | (.malformed, rest) => unsupportedUpTo (tokens.map Token.unformatted) rest
      | (.array, rest) =>
          unsupportedUpTo (tokens.map Token.unformatted) (skipOptionalGroup .openBrace rest)
      | (.named type, rest) =>
          let arguments := readOptionalArguments inner rest
          let block := readBlock? inner arguments.2
          (.creation type arguments.1 block.1, block.2))
      (match (type, rest) with
      | (.malformed, rest) => unsupportedUpTo tokens rest
      | (.array, rest) => unsupportedUpTo tokens (skipOptionalGroup .openBrace rest)
      | (.named type, rest) =>
          let arguments := readOptionalArguments inner rest
          let block := readBlock? inner arguments.2
          (.creation type arguments.1 block.1, block.2)) := by
  have arguments := readOptionalArguments_like ignores rest
  have block := readBlock?_like ignores (readOptionalArguments inner rest).2
  rw [← arguments.rest] at block
  cases type with
  | malformed =>
      cases unformattedType with
      | malformed => exact unsupportedUpTo_like _ _ _
      | named | array => cases sameType
  | array =>
      cases unformattedType with
      | array =>
          simp only [skipOptionalGroup_unformatted]
          exact unsupportedUpTo_like _ _ _
      | named | malformed => cases sameType
  | named text =>
      cases unformattedType with
      | named other => exact ⟨by simp [arguments.result, block.result], block.rest⟩
      | array | malformed => cases sameType

/-- A creation is read alike. -/
theorem readCreation_like :
    ReadsLike Expression.unformatted
      (readCreation inner (tokens.map Token.unformatted)) (readCreation inner tokens) := by
  unfold readCreation
  simp only [← List.map_tail, startsWith_unformatted]
  split
  · have arguments := readArguments_like ignores tokens.tail.tail
    have block := readBlock?_like ignores (readArguments inner tokens.tail.tail).2
    rw [← arguments.rest] at block
    refine ⟨?_, block.rest⟩
    simp only [Expression.unformatted_targetTypedCreation, arguments.result, block.result]
  · split
    · rw [afterGroup_unformatted, skipOptionalGroup_unformatted]
      exact unsupportedUpTo_like _ _ _
    · have declared := readDeclaredType_unformatted tokens.tail
      rcases written : readDeclaredType tokens.tail with ⟨type, rest⟩
      rcases unformatted : readDeclaredType (tokens.tail.map Token.unformatted) with ⟨other, others⟩
      rw [written, unformatted] at declared
      obtain rfl : others = rest.map Token.unformatted := declared.rest
      exact readCreation_like_of_type ignores tokens declared.result

/-- The last part of a chain without texts that depend on formatting. -/
def ChainEnd.unformatted : ChainEnd → ChainEnd
  | member => member
  | call _ arguments => call [] (arguments.map Expression.unformatted)
  | access => access

omit ignores in
/-- A chain is the same expression for the same last part, up to texts. -/
theorem ChainEnd.toExpression_like
    {last other : ChainEnd}
    (same : other.unformatted = last.unformatted)
    (start otherStart rest otherRest : List Token) :
    (other.toExpression otherStart otherRest).unformatted =
      (last.toExpression start rest).unformatted := by
  cases last with
  | member | access => cases other <;> first | rfl | cases same
  | call opening arguments =>
      cases other with
      | member | access => cases same
      | call otherOpening otherArguments =>
          rw [ChainEnd.unformatted, ChainEnd.unformatted, ChainEnd.call.injEq] at same
          simp only [toExpression, Expression.unformatted_invocation, same.2]

/-- A chain is read alike behind heads with the same last part so far. -/
theorem readChain_like
    (last other : ChainEnd)
    (same : other.unformatted = last.unformatted)
    (start otherStart : List Token) :
    ReadsLike Expression.unformatted
      (readChain inner otherStart other (tokens.map Token.unformatted))
      (readChain inner start last tokens) := by
  fun_induction readChain inner start last tokens generalizing other with
  | case1 last tokens isMember hypothesis =>
      rw [readChain_step, startsMember_unformatted, if_pos isMember, ← List.map_tail,
        ← List.map_tail]
      exact hypothesis .member rfl
  | case2 last tokens notMember call arguments behind reading hypothesis =>
      have alike := readArguments_like ignores tokens.tail
      rw [reading] at alike
      rw [readChain_step, startsMember_unformatted, if_neg notMember, startsWith_unformatted,
        if_pos call, ← List.map_tail]
      simp only [alike.rest]
      refine hypothesis _ ?_
      rw [ChainEnd.unformatted, ChainEnd.unformatted, alike.result]
  | case3 last tokens notMember notCall access hypothesis =>
      rw [readChain_step, startsMember_unformatted, if_neg notMember, startsWith_unformatted,
        if_neg notCall, startsWith_unformatted, if_pos access, afterGroup_unformatted]
      exact hypothesis .access rfl
  | case4 last tokens notMember notCall notAccess =>
      rw [readChain_step, startsMember_unformatted, if_neg notMember, startsWith_unformatted,
        if_neg notCall, startsWith_unformatted, if_neg notAccess]
      exact ⟨ChainEnd.toExpression_like same _ _ _ _, rfl⟩

/-! ## Whole expressions -/

omit ignores in
/-- One token or group is passed over alike. -/
theorem readUnsupported_like :
    ReadsLike Expression.unformatted
      (readUnsupported (tokens.map Token.unformatted)) (readUnsupported tokens) := by
  unfold readUnsupported
  rw [atOpener_unformatted, atExpressionEnd_unformatted]
  split
  · rw [afterGroup_unformatted]
    exact unsupportedUpTo_like _ _ _
  · split
    · exact unsupportedUpTo_like _ _ _
    · rw [← List.map_tail]
      exact unsupportedUpTo_like _ _ _

omit ignores in
/-- A numeral is the same number, or out of bounds alike. -/
theorem numberUpTo_like
    (text : String)
    (negative : Bool)
    (start others rest : List Token) :
    ReadsLike Expression.unformatted
      (numberUpTo text negative start (rest.map Token.unformatted))
      (numberUpTo text negative others rest) := by
  unfold numberUpTo
  split
  · exact ⟨rfl, rfl⟩
  · exact unsupportedUpTo_like _ _ _

omit ignores in
/-- What begins with a minus sign is read alike. -/
theorem readNegative_like :
    ReadsLike Expression.unformatted
      (readNegative (tokens.map Token.unformatted)) (readNegative tokens) := by
  have other := readUnsupported_like tokens
  rcases tokens with _ | ⟨first, _ | ⟨second, rest⟩⟩
  · exact other
  · exact other
  · rcases second with ⟨kind, gap, lexeme⟩
    cases kind with
    | number text => exact numberUpTo_like text true _ _ rest
    | _ => exact other

/-- What begins with a word is read alike. -/
theorem readWord_like
    (word : String) :
    ReadsLike Expression.unformatted
      (readWord inner word (tokens.map Token.unformatted)) (readWord inner word tokens) := by
  unfold readWord
  rw [← List.map_tail, startsWith_unformatted]
  split
  · exact ⟨rfl, rfl⟩
  split
  · exact ⟨rfl, rfl⟩
  split
  · exact ⟨rfl, rfl⟩
  split
  · exact ⟨rfl, rfl⟩
  split
  · exact readCreation_like ignores tokens
  split
  · exact readChain_like ignores tokens.tail .member .member rfl _ _
  · exact readUnsupported_like tokens

/-- An expression without operators is read alike. -/
theorem readPrimary_like :
    ReadsLike Expression.unformatted
      (readPrimary inner (tokens.map Token.unformatted)) (readPrimary inner tokens) := by
  cases tokens with
  | nil => exact ⟨rfl, rfl⟩
  | cons token rest =>
      have other := readUnsupported_like (token :: rest)
      rcases token with ⟨kind, gap, lexeme⟩
      cases kind with
      | identifier word => exact readWord_like ignores _ word
      | number text => exact numberUpTo_like text false _ _ rest
      | string value | character text => exact ⟨rfl, rfl⟩
      | interpolated | unknown => exact other
      | punctuator mark =>
          cases mark with
          | minus => exact readNegative_like _
          | openBrace =>
              have entries := readEntries_like ignores rest
              refine ⟨?_, entries.rest⟩
              simp only [List.map_cons, Token.unformatted, readPrimary,
                Expression.unformatted_initializer, entries.result]
          | openBracket => exact ⟨rfl, afterGroup_unformatted _ 0⟩
          | _ => exact other

omit ignores in
/-- A name begins with a word. -/
theorem firstWord?_isSome_of_isName
    (isName : (readPrimary inner tokens).1.isName = true) :
    (firstWord? tokens).isSome := by
  cases tokens with
  | nil => cases isName
  | cons token rest =>
      -- Whatever begins with no word is read as something else than a name.
      have other (named : (readUnsupported (token :: rest)).1.isName = true) : False := by
        rw [isName_readUnsupported] at named
        cases named
      rcases token with ⟨kind, gap, lexeme⟩
      cases kind with
      | identifier word => rfl
      | number text =>
          have numeral := isName_numberUpTo text false (⟨.number text, gap, lexeme⟩ :: rest) rest
          rw [readPrimary, numeral] at isName
          cases isName
      | string | character => cases isName
      | interpolated | unknown => exact (other isName).elim
      | punctuator mark =>
          cases mark with
          | openBrace | openBracket => cases isName
          | minus =>
              have negative := isName_readNegative (⟨.punctuator .minus, gap, lexeme⟩ :: rest)
              change (readNegative _).1.isName = true at isName
              rw [negative] at isName
              cases isName
          | _ => exact (other isName).elim

omit ignores in
/-- A single word has the same text without its formatting. -/
theorem textUpTo_unformatted_of_word
    {tokens behind : List Token}
    (isWord : (firstWord? tokens).isSome)
    (single : behind.length + 1 = tokens.length) :
    textUpTo (tokens.map Token.unformatted) (behind.map Token.unformatted) =
      textUpTo tokens behind := by
  cases tokens with
  | nil => cases isWord
  | cons token rest =>
      rcases token with ⟨kind, gap, lexeme⟩
      have one : (rest.length + 1) - behind.length = 1 := by
        rw [List.length_cons] at single
        omega
      cases kind with
      | identifier word => simp [textUpTo, taken, one, sourceText, Token.unformatted]
      | _ => cases isWord

/-- An expression is read alike. -/
theorem readOperation_like :
    ReadsLike Expression.unformatted
      (readOperation inner (tokens.map Token.unformatted)) (readOperation inner tokens) := by
  have primary := readPrimary_like ignores tokens
  have named : (readPrimary inner tokens).1.isName = true → (firstWord? tokens).isSome :=
    firstWord?_isSome_of_isName tokens
  unfold readOperation
  rcases written : readPrimary inner tokens with ⟨left, behind⟩
  rcases unformatted : readPrimary inner (tokens.map Token.unformatted) with ⟨other, others⟩
  rw [written, unformatted] at primary
  rw [written] at named
  obtain rfl : others = behind.map Token.unformatted := primary.rest
  have assignable : other.isAssignable = left.isAssignable := by
    rw [← Expression.isAssignable_unformatted, primary.result,
      Expression.isAssignable_unformatted]
  have isName : other.isName = left.isName := by
    rw [← Expression.isName_unformatted, primary.result, Expression.isName_unformatted]
  simp only [startsWith_unformatted, assignable, atExpressionEnd_unformatted, ← List.map_tail]
  split
  · have value := ignores behind.tail
    refine ⟨?_, value.rest⟩
    simp only [Expression.unformatted_assignment, isName, List.length_map, value.result]
    -- Only the target of a single word is still there, and that word is as written.
    congr 1
    split
    · next bare =>
        rw [Bool.and_eq_true, beq_iff_eq] at bare
        exact textUpTo_unformatted_of_word (named bare.1) bare.2
    · rfl
  · split
    · exact ⟨primary.result, rfl⟩
    · rw [fromDelimiter_unformatted]
      exact unsupportedUpTo_like _ _ _

end Lists

/-- Passing over every expression ignores formatting. -/
theorem ignoresFormatting_passingReader :
    IgnoresFormatting passingReader := by
  intro tokens
  simp only [passingReader, passExpression, fromDelimiter_unformatted]
  exact unsupportedUpTo_like _ _ _

/-- Expressions are read alike, however many layers may open. -/
theorem ignoresFormatting_expressionReader
    (room : Nat) :
    IgnoresFormatting (expressionReader room) := by
  induction room with
  | zero => exact ignoresFormatting_passingReader
  | succ room hypothesis => exact readOperation_like hypothesis

end InitializerJson
