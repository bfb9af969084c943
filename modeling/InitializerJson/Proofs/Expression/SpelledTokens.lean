import InitializerJson.Proofs.Expression.ChainReading

namespace InitializerJson

open Lexical Character

/-!
# Spelled tokens

Words and punctuators behind spaces are read back from their spelling, wherever the text
behind them does not go on as part of them.
-/

/-- The token of a word or punctuator behind spaces. -/
inductive Lexical.Token.IsSpelled : Token → Prop where
  | word
      {gap word : List Char}
      (spaces : IsSpaces gap)
      (isWord : IsWord word) :
      IsSpelled (wordToken gap word)
  | mark
      {gap : List Char}
      (spaces : IsSpaces gap)
      (mark : Punctuator) :
      IsSpelled (markToken gap mark)

/-- A token with a gap before it. -/
def Lexical.Token.IsParted
    (token : Token) :
    Prop :=
  token.gap ≠ []

section Spelled

variable
  {token : Token}
  {belongs : Char → Bool}
  {mark : Punctuator}
  {gap text rest : List Char}

/-- A run ends before spaces, or where it ends behind them. -/
theorem endsRun_behind_spaces
    (spaces : IsSpaces gap)
    (noSpace : belongs ' ' = false)
    (ends : EndsRun belongs text) :
    EndsRun belongs (gap ++ text) := by
  cases gap with
  | nil => exact ends
  | cons character gap =>
      obtain ⟨rfl, _⟩ := List.forall_mem_cons.mp spaces
      exact endsRun_cons noSpace

/-- A punctuator ends before spaces, or where it ends behind them. -/
theorem endsBefore_behind_spaces
    (spaces : IsSpaces gap)
    (ends : mark.EndsBefore text) :
    mark.EndsBefore (gap ++ text) := by
  cases gap with
  | nil => exact ends
  | cons character gap =>
      obtain ⟨rfl, _⟩ := List.forall_mem_cons.mp spaces
      exact mark.endsBefore_space (gap ++ text)

namespace Lexical.Token.IsSpelled

/-- A spelled token that is a word is the token of one behind spaces. -/
theorem exists_word
    (spelled : token.IsSpelled)
    (isWord : token.word?.isSome) :
    ∃ gap word, IsSpaces gap ∧ IsWord word ∧ token = wordToken gap word := by
  cases spelled with
  | word spaces known => exact ⟨_, _, spaces, known, rfl⟩
  | mark => cases isWord

/-- A spelled token that is a punctuator is the token of it behind spaces. -/
theorem exists_mark
    (spelled : token.IsSpelled)
    (isMark : token.punctuator? = some mark) :
    ∃ gap, IsSpaces gap ∧ token = markToken gap mark := by
  cases spelled with
  | word => cases isMark
  | mark spaces known =>
      cases isMark
      exact ⟨_, spaces, rfl⟩

/-- A spelled word is read back where no identifier goes on. -/
theorem isReadBack_word
    (spelled : token.IsSpelled)
    (isWord : token.word?.isSome)
    (ends : EndsRun continuesIdentifier rest) :
    token.IsReadBack rest := by
  obtain ⟨gap, word, spaces, known, rfl⟩ := spelled.exists_word isWord
  exact ⟨spaces, known.isLexeme ends⟩

/-- A spelled punctuator is read back where it ends. -/
theorem isReadBack_mark
    (spelled : token.IsSpelled)
    (isMark : token.punctuator? = some mark)
    (notSlash : mark.spelling.head? ≠ some '/')
    (ends : mark.EndsBefore rest) :
    token.IsReadBack rest := by
  obtain ⟨gap, spaces, rfl⟩ := spelled.exists_mark isMark
  exact ⟨spaces, ends.isLexeme notSlash⟩

/-- A spelled punctuator is read back before anything if it is part of no longer one. -/
theorem isReadBack_whole
    (spelled : token.IsSpelled)
    (isMark : token.punctuator? = some mark)
    (whole : mark.IsWhole)
    (rest : List Char) :
    token.IsReadBack rest := by
  obtain ⟨noLonger, notDot, notSlash⟩ := whole
  refine spelled.isReadBack_mark isMark notSlash ⟨?_, fun isDot => absurd isDot notDot⟩
  simp [noLonger]

/-- A run ends before a spelled punctuator that does not belong to it. -/
theorem endsRun_mark
    (spelled : token.IsSpelled)
    (isMark : token.punctuator? = some mark)
    (noSpace : belongs ' ' = false)
    (outside : mark.spelling.head?.any belongs = false)
    (tokens : List Token)
    (rest : List Char) :
    EndsRun belongs (spelling (token :: tokens) ++ rest) := by
  obtain ⟨gap, spaces, rfl⟩ := spelled.exists_mark isMark
  obtain ⟨first, others, shape⟩ := List.exists_cons_of_ne_nil (Punctuator.spelling_ne_nil mark)
  have outsideFirst : belongs first = false := by
    simpa [shape] using outside
  rw [spelling_cons, List.append_assoc, List.append_assoc]
  apply endsRun_behind_spaces spaces noSpace
  rw [markToken, shape]
  exact endsRun_cons outsideFirst

/-- A run ends before a spelled token with a space in front of it. -/
theorem endsRun_parted
    (spelled : token.IsSpelled)
    (parted : token.IsParted)
    (noSpace : belongs ' ' = false)
    (tokens : List Token)
    (rest : List Char) :
    EndsRun belongs (spelling (token :: tokens) ++ rest) := by
  have spaces : IsSpaces token.gap := by
    cases spelled with
    | word spaces _ => exact spaces
    | mark spaces _ => exact spaces
  obtain ⟨first, others, shape⟩ := List.exists_cons_of_ne_nil parted
  rw [shape] at spaces
  obtain ⟨rfl, _⟩ := List.forall_mem_cons.mp spaces
  rw [spelling_cons, shape]
  exact endsRun_cons noSpace

/-- A punctuator ends before a spelled word. -/
theorem endsBefore_word
    (spelled : token.IsSpelled)
    (isWord : token.word?.isSome)
    (mark : Punctuator)
    (tokens : List Token)
    (rest : List Char) :
    mark.EndsBefore (spelling (token :: tokens) ++ rest) := by
  obtain ⟨gap, word, spaces, known, rfl⟩ := spelled.exists_word isWord
  rw [spelling_cons, List.append_assoc, List.append_assoc]
  exact endsBefore_behind_spaces spaces (endsBefore_of_isWord known mark)

end Lexical.Token.IsSpelled

/-- Spelled commas are read back before anything. -/
theorem areReadBack_commas
    {tokens : List Token}
    (areCommas : ∀ token ∈ tokens, token.punctuator? = some .comma)
    (spelled : ∀ token ∈ tokens, token.IsSpelled)
    (rest : List Char) :
    AreReadBack tokens rest := by
  induction tokens with
  | nil => trivial
  | cons token tokens hypothesis =>
      obtain ⟨isComma, others⟩ := List.forall_mem_cons.mp areCommas
      obtain ⟨known, othersSpelled⟩ := List.forall_mem_cons.mp spelled
      exact ⟨known.isReadBack_whole isComma (by decide) _, hypothesis others othersSpelled⟩

end Spelled

end InitializerJson
