import InitializerJson.Proofs.Expression.Groups
import InitializerJson.Proofs.Expression.Recovery

namespace InitializerJson

open Lexical

/-!
# Nested brackets

Where the brackets are nested by kind and no semicolon stands inside them, the next
delimiter in a group is a comma or the bracket that closes it.
-/

/--
Tokens whose brackets are nested by kind, while the closing brackets that are `due` are
still to come, the innermost one first.  Semicolons stand outside all brackets.
-/
inductive Nests : (due : List Punctuator) → List Token → Prop where
  | nil :
      Nests [] []
  | opening
      {due : List Punctuator}
      {opener closer : Punctuator}
      {token : Token}
      {rest : List Token}
      (opens : token.punctuator? = some opener)
      (matching : opener.closer? = some closer)
      (behind : Nests (closer :: due) rest) :
      Nests due (token :: rest)
  | closing
      {due : List Punctuator}
      {closer : Punctuator}
      {token : Token}
      {rest : List Token}
      (closes : token.punctuator? = some closer)
      (isCloser : closer.isCloser = true)
      (behind : Nests due rest) :
      Nests (closer :: due) (token :: rest)
  | semicolon
      {token : Token}
      {rest : List Token}
      (separates : token.punctuator? = some .semicolon)
      (behind : Nests [] rest) :
      Nests [] (token :: rest)
  | other
      {due : List Punctuator}
      {token : Token}
      {rest : List Token}
      (notOpener : token.isOpener = false)
      (notCloser : token.isCloser = false)
      (notSemicolon : token.punctuator? ≠ some .semicolon)
      (behind : Nests due rest) :
      Nests due (token :: rest)

/-- What stands behind tokens with nested brackets has nested brackets itself. -/
theorem Nests.exists_of_suffix
    {due : List Punctuator}
    {tokens place : List Token}
    (nests : Nests due tokens)
    (suffix : place <:+ tokens) :
    ∃ left, Nests left place := by
  induction nests with
  | nil =>
      rw [List.suffix_nil.mp suffix]
      exact ⟨[], .nil⟩
  | opening opens matching behind hypothesis =>
      rcases List.suffix_cons_iff.mp suffix with rfl | inside
      · exact ⟨_, .opening opens matching behind⟩
      · exact hypothesis inside
  | closing closes isCloser behind hypothesis =>
      rcases List.suffix_cons_iff.mp suffix with rfl | inside
      · exact ⟨_, .closing closes isCloser behind⟩
      · exact hypothesis inside
  | semicolon separates behind hypothesis =>
      rcases List.suffix_cons_iff.mp suffix with rfl | inside
      · exact ⟨_, .semicolon separates behind⟩
      · exact hypothesis inside
  | other notOpener notCloser notSemicolon behind hypothesis =>
      rcases List.suffix_cons_iff.mp suffix with rfl | inside
      · exact ⟨_, .other notOpener notCloser notSemicolon behind⟩
      · exact hypothesis inside

/-- Behind an opening bracket its own closing bracket is due. -/
theorem Nests.tail_of_startsWith
    {due : List Punctuator}
    {tokens : List Token}
    (nests : Nests due tokens)
    {opener closer : Punctuator}
    (starts : startsWith opener tokens = true)
    (matching : opener.closer? = some closer) :
    Nests (closer :: due) tokens.tail := by
  cases tokens with
  | nil => cases starts
  | cons token rest =>
      have isMark : token.punctuator? = some opener := beq_iff_eq.mp starts
      have isOpener : token.isOpener = true := isOpener_of_closer? isMark matching
      cases nests with
      | opening opens otherMatching behind =>
          rw [isMark, Option.some.injEq] at opens
          rw [← opens, matching, Option.some.injEq] at otherMatching
          rw [otherMatching]
          exact behind
      | @closing _ other _ _ closes isCloser _ =>
          have isClosing : token.isCloser = true := by
            rw [Token.isCloser, closes]
            exact isCloser
          rw [isOpener_of_isCloser isClosing] at isOpener
          cases isOpener
      | semicolon separates _ =>
          rw [Token.isOpener, separates] at isOpener
          cases isOpener
      | other notOpener _ _ _ =>
          rw [notOpener] at isOpener
          cases isOpener

/-- The next delimiter that counts stands where the brackets opened before it are closed. -/
theorem Nests.fromDelimiter_append
    {due entered : List Punctuator}
    {tokens : List Token}
    (nests : Nests (entered ++ due) tokens) :
    Nests due (fromDelimiter entered.length tokens) := by
  generalize shape : entered ++ due = all at nests
  induction nests generalizing entered with
  | nil =>
      obtain ⟨rfl, rfl⟩ := List.append_eq_nil_iff.mp shape
      exact .nil
  | @opening outer opener closer token rest opens matching behind hypothesis =>
      have isOpener : token.isOpener = true := isOpener_of_closer? opens matching
      have longer : closer :: entered ++ due = closer :: outer := congrArg (closer :: ·) shape
      have inside := hypothesis longer
      cases entered with
      | nil =>
          rw [List.length_nil, fromDelimiter, isDelimiter_of_isOpener isOpener,
            if_neg Bool.false_ne_true, if_pos isOpener]
          exact inside
      | cons =>
          rw [List.length_cons, fromDelimiter, if_pos isOpener]
          exact inside
  | @closing others closer token rest closes isCloser behind hypothesis =>
      have isClosing : token.isCloser = true := by
        rw [Token.isCloser, closes]
        exact isCloser
      cases entered with
      | nil =>
          rw [List.nil_append] at shape
          rw [List.length_nil, fromDelimiter, if_pos (isDelimiter_of_isCloser isClosing), shape]
          exact .closing closes isCloser behind
      | cons first more =>
          rw [List.cons_append, List.cons.injEq] at shape
          rw [List.length_cons, fromDelimiter, isOpener_of_isCloser isClosing,
            if_neg Bool.false_ne_true, if_pos isClosing]
          exact hypothesis shape.2
  | @semicolon token rest separates behind hypothesis =>
      obtain ⟨rfl, rfl⟩ := List.append_eq_nil_iff.mp shape
      have delimits : token.isDelimiter = true := by
        rw [Token.isDelimiter, separates]
        rfl
      rw [List.length_nil, fromDelimiter, if_pos delimits]
      exact .semicolon separates behind
  | @other others token rest notOpener notCloser notSemicolon behind hypothesis =>
      have passed := hypothesis shape
      cases entered with
      | nil =>
          rw [List.nil_append] at shape
          rw [List.length_nil, fromDelimiter]
          split
          · rw [shape]
            exact .other notOpener notCloser notSemicolon behind
          · rw [notOpener, if_neg Bool.false_ne_true]
            exact passed
      | cons =>
          rw [List.length_cons, fromDelimiter, notOpener, notCloser, if_neg Bool.false_ne_true,
            if_neg Bool.false_ne_true]
          exact passed

/--
Inside a bracket the next delimiter is a comma, with the rest of the group behind it, or
the bracket that is due, which closes the group.
-/
theorem Nests.exists_delimiter
    {due : List Punctuator}
    {closer : Punctuator}
    {tokens : List Token}
    (nests : Nests (closer :: due) tokens) :
    ∃ token rest, fromDelimiter 0 tokens = token :: rest ∧
      (token.punctuator? = some .comma ∧ Nests (closer :: due) rest ∧
          afterGroup 1 rest = afterGroup 1 tokens ∨
        token.punctuator? = some closer ∧ rest = afterGroup 1 tokens) := by
  have group : afterGroup 1 (fromDelimiter 0 tokens) = afterGroup 1 tokens :=
    afterGroup_fromDelimiter 0 tokens
  have behind : Nests (closer :: due) (fromDelimiter 0 tokens) :=
    @Nests.fromDelimiter_append (closer :: due) [] tokens nests
  have ends := atExpressionEnd_fromDelimiter 0 tokens
  generalize fromDelimiter 0 tokens = left at group behind ends
  cases behind with
  | @opening _ opener _ token rest opens matching _ =>
      have isOpener : token.isOpener = true := isOpener_of_closer? opens matching
      rw [atExpressionEnd, isDelimiter_of_isOpener isOpener] at ends
      cases ends
  | @closing _ _ token rest closes isCloser _ =>
      have isClosing : token.isCloser = true := by
        rw [Token.isCloser, closes]
        exact isCloser
      refine ⟨token, rest, rfl, .inr ⟨closes, ?_⟩⟩
      simpa [afterGroup, isOpener_of_isCloser isClosing, isClosing] using group
  | @other _ token rest notOpener notCloser notSemicolon more =>
      have isComma : token.punctuator? = some .comma := by
        rcases token with ⟨kind, gap, lexeme⟩
        cases kind with
        | punctuator mark =>
            cases mark with
            | comma => rfl
            | semicolon => exact absurd rfl notSemicolon
            | closeParenthesis | closeBracket | closeBrace => cases notCloser
            | _ => cases ends
        | _ => cases ends
      refine ⟨token, rest, rfl, .inl ⟨isComma, more, ?_⟩⟩
      simpa [afterGroup, notOpener, notCloser] using group

end InitializerJson
