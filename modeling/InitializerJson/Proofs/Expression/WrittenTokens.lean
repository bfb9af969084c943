import InitializerJson.Expression.Cursor
import InitializerJson.Proofs.Lexical.PunctuatorLexeme

namespace InitializerJson

open Lexical Character

/-!
# Words and marks as tokens

The tokens of words and punctuators with a gap before them, how they are spelled,
and what looking at them tells.
-/

/-- The token of a word behind a gap. -/
def wordToken
    (gap word : List Char) :
    Token where
  kind := .identifier (String.ofList word)
  gap := gap
  lexeme := word

/-- The token of a punctuator behind a gap. -/
def markToken
    (gap : List Char)
    (mark : Punctuator) :
    Token where
  kind := .punctuator mark
  gap := gap
  lexeme := mark.spelling

@[simp] theorem punctuator?_wordToken
    (gap word : List Char) :
    (wordToken gap word).punctuator? = none := by
  rfl

@[simp] theorem punctuator?_markToken
    (gap : List Char)
    (mark : Punctuator) :
    (markToken gap mark).punctuator? = some mark := by
  rfl

@[simp] theorem firstWord?_wordToken
    (gap word : List Char)
    (rest : List Token) :
    firstWord? (wordToken gap word :: rest) = some (String.ofList word) := by
  rfl

@[simp] theorem firstWord?_markToken
    (gap : List Char)
    (mark : Punctuator)
    (rest : List Token) :
    firstWord? (markToken gap mark :: rest) = none := by
  rfl

@[simp] theorem startsWith_wordToken
    (mark : Punctuator)
    (gap word : List Char)
    (rest : List Token) :
    startsWith mark (wordToken gap word :: rest) = false := by
  rfl

@[simp] theorem startsWith_markToken
    (wanted mark : Punctuator)
    (gap : List Char)
    (rest : List Token) :
    startsWith wanted (markToken gap mark :: rest) = decide (mark = wanted) := by
  by_cases same : mark = wanted <;> simp [startsWith, same]

@[simp] theorem isDelimiter_wordToken
    (gap word : List Char) :
    (wordToken gap word).isDelimiter = false := by
  rfl

@[simp] theorem isDelimiter_markToken
    (gap : List Char)
    (mark : Punctuator) :
    (markToken gap mark).isDelimiter = mark.isDelimiter := by
  rfl

/-- No mark but a delimiter stands where an expression ends. -/
theorem startsWith_of_atExpressionEnd
    {mark : Punctuator}
    {rest : List Token}
    (ends : atExpressionEnd rest = true)
    (notDelimiter : mark.isDelimiter = false) :
    startsWith mark rest = false := by
  cases rest with
  | nil => rfl
  | cons token others =>
      rw [startsWith, beq_eq_false_iff_ne]
      intro same
      simp [atExpressionEnd, Token.isDelimiter, same, notDelimiter] at ends

/-- Whatever follows is admitted. -/
def Anything : Follow :=
  fun _ => True

/-- A punctuator that is part of no longer one, and begins neither a numeral nor a comment. -/
def Lexical.Punctuator.IsWhole
    (mark : Punctuator) :
    Prop :=
  mark.continuations = [] ∧ mark ≠ .dot ∧ mark.spelling.head? ≠ some '/'

instance (mark : Punctuator) :
    Decidable mark.IsWhole :=
  inferInstanceAs (Decidable (_ ∧ _))

/-- A word is spelled by its token. -/
theorem spells_word
    {gap word : List Char}
    (spaces : IsSpaces gap)
    (isWord : IsWord word) :
    Spells (EndsRun continuesIdentifier) (gap ++ word) [wordToken gap word] :=
  Spells.single spaces fun _ ends => isWord.isLexeme ends

/-- A punctuator is spelled by its token. -/
theorem spells_mark
    {gap : List Char}
    (mark : Punctuator)
    (spaces : IsSpaces gap)
    (notSlash : mark.spelling.head? ≠ some '/') :
    Spells mark.EndsBefore (gap ++ mark.spelling) [markToken gap mark] :=
  Spells.single spaces fun _ ends => ends.isLexeme notSlash

/-- A punctuator ends where a run ends to which all belongs that would make it longer. -/
theorem endsBefore_of_endsRun
    {belongs : Char → Bool}
    {mark : Punctuator}
    {rest : List Char}
    (ends : EndsRun belongs rest)
    (inside : mark.continuations.all belongs = true)
    (notDot : mark ≠ .dot) :
    mark.EndsBefore rest := by
  refine ⟨?_, fun isDot => absurd isDot notDot⟩
  intro next first continued
  have outside := ends next first
  rw [List.all_eq_true.mp inside next continued] at outside
  cases outside

/-- A punctuator is spelled by its token where no character goes on that makes it longer. -/
theorem spells_mark_of_endsRun
    {gap : List Char}
    {belongs : Char → Bool}
    (mark : Punctuator)
    (spaces : IsSpaces gap)
    (inside : mark.continuations.all belongs = true)
    (notDot : mark ≠ .dot)
    (notSlash : mark.spelling.head? ≠ some '/') :
    Spells (EndsRun belongs) (gap ++ mark.spelling) [markToken gap mark] := by
  exact (spells_mark mark spaces notSlash).weaken fun _ ends =>
    endsBefore_of_endsRun ends inside notDot

/-- A whole punctuator is spelled by its token before anything. -/
theorem spells_whole
    {gap : List Char}
    (mark : Punctuator)
    (spaces : IsSpaces gap)
    (whole : mark.IsWhole) :
    Spells Anything (gap ++ mark.spelling) [markToken gap mark] := by
  obtain ⟨noLonger, notDot, notSlash⟩ := whole
  refine (spells_mark mark spaces notSlash).weaken ?_
  intro rest _
  exact ⟨fun next _ => by simp [noLonger], fun isDot => absurd isDot notDot⟩

/-- What is read back before anything is read back before what a condition admits. -/
theorem Lexical.Spells.anywhere
    {text : List Char}
    {tokens : List Token}
    (spells : Spells Anything text tokens)
    (follow : Follow) :
    Spells follow text tokens :=
  spells.weaken fun _ _ => trivial

/-- Texts with a whole punctuator between them are spelled by their tokens and its token. -/
theorem Lexical.Spells.appendMark
    {inner outer : Follow}
    {first second : List Char}
    {firstTokens secondTokens : List Token}
    (firstSpells : Spells inner first firstTokens)
    (secondSpells : Spells outer second secondTokens)
    {gap : List Char}
    (mark : Punctuator)
    (spaces : IsSpaces gap)
    (whole : mark.IsWhole)
    (admits : ∀ rest, inner (gap ++ mark.spelling ++ rest)) :
    Spells outer (first ++ (gap ++ mark.spelling ++ second))
      (firstTokens ++ markToken gap mark :: secondTokens) := by
  have behind := (spells_whole mark spaces whole).append secondSpells fun _ _ => trivial
  refine firstSpells.append behind ?_
  intro rest _
  rw [List.append_assoc]
  exact admits _

/-- A text in brackets is spelled by its tokens and those of the brackets. -/
theorem Lexical.Spells.enclosed
    {follow : Follow}
    {text : List Char}
    {tokens : List Token}
    (spells : Spells follow text tokens)
    {gap closingGap : List Char}
    (opening closing : Punctuator)
    (spaces : IsSpaces gap)
    (closingSpaces : IsSpaces closingGap)
    (opens : opening.IsWhole)
    (closes : closing.IsWhole)
    (admits : ∀ rest, follow (closingGap ++ closing.spelling ++ rest)) :
    Spells Anything
      (gap ++ opening.spelling ++ (text ++ (closingGap ++ closing.spelling)))
      (markToken gap opening :: (tokens ++ [markToken closingGap closing])) := by
  have behind := spells.append (spells_whole closing closingSpaces closes) fun rest _ => admits rest
  exact (spells_whole opening spaces opens).append behind fun _ _ => trivial

/-- Nothing is spelled by no tokens. -/
theorem spells_nil
    (follow : Follow) :
    Spells follow [] [] where
  spelled := rfl
  readBack _ _ := trivial

/-- No space is a gap of spaces. -/
theorem isSpaces_nil :
    IsSpaces [] := by
  simp [IsSpaces]

/-- One space is a gap of spaces. -/
theorem isSpaces_one :
    IsSpaces [' '] := by
  simp [IsSpaces]

/-- Tokens are spelled by their first gap and their source text. -/
theorem spelling_eq_gap_append
    (first : Token)
    (others : List Token) :
    spelling (first :: others) = first.gap ++ (sourceText (first :: others)).toList := by
  rw [spelling_cons, sourceText, String.toList_ofList]
  rfl

/-- The source text of some tokens is their spelling behind the first gap. -/
theorem sourceText_of_spelling
    {first : Token}
    {others : List Token}
    {text : List Char}
    (spelled : spelling (first :: others) = first.gap ++ text) :
    sourceText (first :: others) = String.ofList text := by
  rw [spelling_eq_gap_append, List.append_cancel_left_eq] at spelled
  rw [← spelled, String.ofList_toList]

/-- The text up to the place behind some tokens is their source text. -/
theorem textUpTo_append
    (tokens rest : List Token) :
    textUpTo (tokens ++ rest) rest = sourceText tokens := by
  rw [textUpTo, taken_append_left]

end InitializerJson
