import Mathlib.Data.List.Forall2
import InitializerJson.Proofs.Expression.LiteralTokens
import InitializerJson.Proofs.Expression.PrintedReading
import InitializerJson.Proofs.Expression.SegmentLists

namespace InitializerJson

open Lexical

/-!
# Expressions that are read whole

Tokens that are read as one expression in front of whatever ends one: literals, however
they are written, names, assignments of such expressions, and names with an angle bracket
behind them, which are kept as text up to the next delimiter.
-/

/-- A reader takes some tokens for an expression, in front of whatever ends one. -/
structure ReadsWhole
    (reader : Reader Expression)
    (tokens : List Token)
    (expression : Expression) :
    Prop where
  begins : ∃ first others, tokens = first :: others ∧ first.isDelimiter = false
  reads : ∀ rest, atExpressionEnd rest = true → reader.read (tokens ++ rest) = (expression, rest)

/-- The tokens of an identifier, or of a reserved word that begins chains as well. -/
def Lexical.Token.IsHead
    (token : Token) :
    Prop :=
  ∃ word, token.kind = .identifier word ∧ beginsChain word = true

section Whole

variable
  {reader : Reader Expression}
  {tokens : List Token}

/-- What begins a chain ends no expression. -/
theorem Lexical.Token.IsHead.begins
    {head : Token}
    (isHead : head.IsHead)
    (others : List Token) :
    ∃ first behind, head :: others = first :: behind ∧ first.isDelimiter = false := by
  obtain ⟨word, kind, _⟩ := isHead
  exact ⟨head, others, rfl, by rw [Token.isDelimiter, Token.punctuator?, kind]; rfl⟩

/-- Entries that are read whole are read one by one. -/
theorem readEntries_of_readsWhole
    {pieces : List (List Token)}
    (separated : Separated pieces tokens)
    {expressions : List Expression}
    (reads : List.Forall₂ (ReadsWhole reader) pieces expressions)
    {closing : Token}
    (isClosing : closing.punctuator? = some .closeBrace)
    (rest : List Token) :
    readEntries reader (tokens ++ closing :: rest) = (expressions, rest) := by
  induction separated generalizing expressions with
  | @last piece =>
      obtain ⟨expression, _, whole, nothing, rfl⟩ := List.forall₂_cons_left_iff.mp reads
      obtain rfl := List.forall₂_nil_left_iff.mp nothing
      obtain ⟨first, others, rfl, notDelimiter⟩ := whole.begins
      have read := whole.reads (closing :: rest) (atExpressionEnd_of_mark isClosing rfl rest)
      rw [List.cons_append] at read ⊢
      rw [readEntries_step]
      simp [notClosed_of_begins notDelimiter, read, skipOptional, startsWith_of_mark isClosing]
  | @cons piece others pieces comma isComma _ hypothesis =>
      obtain ⟨expression, more, whole, readsMore, rfl⟩ := List.forall₂_cons_left_iff.mp reads
      obtain ⟨first, behind, rfl, notDelimiter⟩ := whole.begins
      have read := whole.reads (comma :: (others ++ closing :: rest))
        (atExpressionEnd_of_mark isComma rfl _)
      rw [List.append_assoc, List.cons_append] at *
      rw [readEntries_step]
      simp [notClosed_of_begins notDelimiter, read, startsWith_of_mark isComma,
        hypothesis readsMore]

/-- Literals are read whole. -/
theorem ScalarTokens.readsWhole
    {literal : Literal}
    (scalar : ScalarTokens literal tokens)
    (room : Nat) :
    ReadsWhole (expressionReader (room + 1)) tokens (.literal literal) where
  begins := by
    cases scalar with
    | negative isMinus =>
        exact ⟨_, _, rfl, by rw [Token.isDelimiter, Token.punctuator?, isMinus]; rfl⟩
    | null kind | truth kind | falsehood kind | default kind | number kind | string kind
    | character kind =>
        exact ⟨_, _, rfl, by rw [Token.isDelimiter, Token.punctuator?, kind]; rfl⟩
  reads := by
    intro rest ends
    have notCall : startsWith .openParenthesis rest = false :=
      startsWith_of_atExpressionEnd ends rfl
    refine read_of_readPrimary ?_ ends
    cases scalar with
    | null isWord | truth isWord | falsehood isWord => simp [readPrimary, isWord, readWord]
    | default isWord => simp [readPrimary, isWord, readWord, notCall]
    | number isNumeral inBounds =>
        simp [readPrimary, isNumeral, numberUpTo_of_value inBounds]
    | negative isMinus isNumeral inBounds =>
        simp [readPrimary, isMinus, readNegative, isNumeral, numberUpTo_of_value inBounds]
    | string kind | character kind => simp [readPrimary, kind]

/-- What begins a chain is none of the words that begin other expressions. -/
theorem readPrimary_of_isHead
    (inner : Reader Expression)
    {head : Token}
    (isHead : head.IsHead)
    (rest : List Token) :
    readPrimary inner (head :: rest) = readChain inner (head :: rest) .member rest := by
  obtain ⟨word, kind, begins⟩ := isHead
  have other : ∀ reserved, beginsChain reserved = false → word ≠ reserved := by
    rintro reserved isOther rfl
    rw [isOther] at begins
    cases begins
  simp [readPrimary, kind, readWord, other "null" (by decide), other "true" (by decide),
    other "false" (by decide), other "default" (by decide), other "new" (by decide), begins]

/-- A name is the first part of an expression that goes on with no part of a chain. -/
theorem readPrimary_of_mark
    (inner : Reader Expression)
    {head token : Token}
    (isHead : head.IsHead)
    {mark : Punctuator}
    (isMark : token.punctuator? = some mark)
    (stops : mark ∉ [Punctuator.dot, .conditionalDot, .scope, .openParenthesis, .openBracket])
    (rest : List Token) :
    readPrimary inner (head :: token :: rest) = (.name (sourceText [head]), token :: rest) := by
  have noMark : ∀ wanted ∈ [Punctuator.dot, .conditionalDot, .scope, .openParenthesis,
      .openBracket], startsWith wanted (token :: rest) = false := by
    intro wanted member
    rw [startsWith_of_mark isMark, decide_eq_false_iff_not]
    rintro rfl
    exact stops member
  have noMember : startsMember (token :: rest) = false := by
    simp [startsMember, noMark]
  rw [readPrimary_of_isHead inner isHead, readChain_of_end noMember (noMark _ (by simp))
    (noMark _ (by simp)), ChainEnd.toExpression, ← List.singleton_append, textUpTo_append]

/-- A name by itself is read whole. -/
theorem readsWhole_name
    {head : Token}
    (isHead : head.IsHead)
    (room : Nat) :
    ReadsWhole (expressionReader (room + 1)) [head] (.name (sourceText [head])) where
  begins := isHead.begins []
  reads := by
    intro rest ends
    refine read_of_readPrimary ?_ ends
    rw [List.singleton_append, readPrimary_of_isHead _ isHead,
      readChain_of_end (startsMember_of_atExpressionEnd ends)
        (startsWith_of_atExpressionEnd ends rfl) (startsWith_of_atExpressionEnd ends rfl),
      ChainEnd.toExpression, ← List.singleton_append, textUpTo_append]

/-- A name with an angle bracket behind it is kept as text up to the next delimiter. -/
theorem readsWhole_angle
    {head angle : Token}
    (isHead : head.IsHead)
    (isAngle : angle.punctuator? = some .less ∨ angle.punctuator? = some .greater)
    {others : List Token}
    (bracketed : IsBracketed others)
    (noDelimiter : fromDelimiter 0 others = [])
    (room : Nat) :
    ReadsWhole (expressionReader (room + 1)) (head :: angle :: others)
      (.unsupported (sourceText (head :: angle :: others))) where
  begins := isHead.begins (angle :: others)
  reads := by
    intro rest ends
    obtain ⟨mark, isMark, compares⟩ : ∃ mark, angle.punctuator? = some mark ∧
        (mark = .less ∨ mark = .greater) := by
      rcases isAngle with less | greater
      · exact ⟨_, less, .inl rfl⟩
      · exact ⟨_, greater, .inr rfl⟩
    have noSign : startsWith .assign (angle :: (others ++ rest)) = false := by
      rw [startsWith_of_mark isMark]
      rcases compares with rfl | rfl <;> rfl
    have goesOn : atExpressionEnd (angle :: (others ++ rest)) = false := by
      rw [atExpressionEnd, Token.isDelimiter, isMark]
      rcases compares with rfl | rfl <;> rfl
    have notOpener : atOpener (angle :: (others ++ rest)) = false := by
      rw [atOpener, Token.isOpener, isMark]
      rcases compares with rfl | rfl <;> rfl
    have passed : fromDelimiter 0 (angle :: (others ++ rest)) = rest := by
      rw [← fromDelimiter_tail goesOn notOpener, List.tail_cons, bracketed.fromDelimiter_append,
        if_pos noDelimiter, fromDelimiter_of_atExpressionEnd ends]
    have primary := readPrimary_of_mark (expressionReader room) isHead isMark
      (by rcases compares with rfl | rfl <;> decide) (others ++ rest)
    change readOperation (expressionReader room) (head :: angle :: (others ++ rest)) = _
    rw [readOperation, primary]
    simp only [noSign, goesOn, passed, unsupportedUpTo, Bool.false_and, Bool.false_eq_true,
      if_false]
    rw [← List.cons_append, ← List.cons_append, textUpTo_append]

/-- An assignment to a key is read whole when its value is. -/
theorem ReadsWhole.assignment
    {room : Nat}
    {value : Expression}
    (whole : ReadsWhole (expressionReader (room + 1)) tokens value)
    (gap : List Char)
    {key : String}
    (unreserved : isReserved key = false)
    {sign : Token}
    (isSign : sign.punctuator? = some .assign) :
    ReadsWhole (expressionReader (room + 2)) (wordToken gap key.toList :: sign :: tokens)
      (.assignment key true value) where
  begins := ⟨_, _, rfl, rfl⟩
  reads := by
    intro rest ends
    have isHead : (wordToken gap key.toList).IsHead :=
      ⟨key, by simp [wordToken], by simp [beginsChain, unreserved]⟩
    have target : sourceText [wordToken gap key.toList] = key := by
      simp [sourceText, wordToken]
    have primary := readPrimary_of_mark (expressionReader (room + 1)) isHead isSign (by decide)
      (tokens ++ rest)
    have signed : startsWith .assign (sign :: (tokens ++ rest)) = true := by
      rw [startsWith_of_mark isSign]
      rfl
    change readOperation (expressionReader (room + 1))
      (wordToken gap key.toList :: sign :: (tokens ++ rest)) = _
    rw [readOperation, primary]
    simp only [signed, Expression.isAssignable, Expression.isName, Bool.and_self, if_true,
      List.tail_cons, whole.reads rest ends, List.length_cons, BEq.rfl]
    rw [← List.singleton_append, textUpTo_append, target]

end Whole

end InitializerJson
