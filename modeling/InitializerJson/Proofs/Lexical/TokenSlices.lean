import InitializerJson.Expression.Cursor
import InitializerJson.Proofs.Lexical.Spelling
import InitializerJson.Proofs.Lexical.Tiling

namespace InitializerJson

open Lexical

/-!
# Source text between tokens

The source text of some tokens that follow each other is the slice of the source
from the start of the first one to the end of the last.
-/

namespace Lexical

/-- Tokens that cover a text spell it, up to the last gap. -/
theorem Covers.exists_gap
    {tokens : List Token}
    {text : List Char}
    (covers : Covers tokens text) :
    ∃ gap, text = spelling tokens ++ gap := by
  induction covers with
  | @nil gap _ => exact ⟨gap, rfl⟩
  | @cons token tokens rest _ _ _ _ hypothesis =>
      obtain ⟨gap, rfl⟩ := hypothesis
      exact ⟨gap, by simp⟩

/-- The tokens that cover a text carry their characters, unless they are resolved strings. -/
theorem Covers.carriesLexeme
    {tokens : List Token}
    {text : List Char}
    (covers : Covers tokens text) :
    ∀ token ∈ tokens, token.CarriesLexeme := by
  induction covers with
  | nil => exact List.forall_mem_nil _
  | cons _ _ carries _ hypothesis => exact List.forall_mem_cons.mpr ⟨carries, hypothesis⟩

/-- A token is placed behind its gap and the spelling of the tokens before it. -/
theorem exists_getElem?_placeFrom
    (offset : Nat)
    (position : Position)
    (before : List Token)
    (token : Token)
    (behind : List Token) :
    ∃ placed,
      (placeFrom offset position (before ++ token :: behind))[before.length]? = some placed ∧
        placed.token = token ∧
        placed.offset = offset + byteLength (spelling before ++ token.gap) := by
  induction before generalizing offset position with
  | nil => exact ⟨_, rfl, rfl, rfl⟩
  | cons first before hypothesis =>
      obtain ⟨placed, found, same, place⟩ :=
        hypothesis (offset + byteLength first.gap + byteLength first.lexeme)
          (first.lexeme.foldl Position.advance (first.gap.foldl Position.advance position))
      refine ⟨placed, found, same, ?_⟩
      rw [place, spelling_cons]
      simp only [byteLength_append]
      omega

end Lexical

/-- A text is the slice of a source from the start of a token to the end of one not before it. -/
structure IsTokenSlice
    (source : List Char)
    (tokens : List Token)
    (first last : Nat)
    (text : String) :
    Prop where
  ordered : first ≤ last
  slice : ∃ opening closing,
    (placeTokens tokens)[first]? = some opening ∧
      (placeTokens tokens)[last]? = some closing ∧
      Slice source opening.offset closing.endOffset text.toList

/-- The source text of tokens that follow each other is a slice of the source. -/
theorem isTokenSlice_sourceText
    {source : String}
    {before run behind : List Token}
    (tokenized : tokenize source = .ok (before ++ run ++ behind))
    (filled : run ≠ []) :
    IsTokenSlice source.toList (before ++ run ++ behind) before.length
      (before.length + (run.length - 1)) (sourceText run) := by
  obtain ⟨gap, shape⟩ := (covers_of_tokenize tokenized).exists_gap
  obtain ⟨first, others, runBegins⟩ := List.exists_cons_of_ne_nil filled
  obtain ⟨earlier, last, runEnds⟩ : ∃ earlier last, run = earlier ++ [last] :=
    ⟨_, _, (List.dropLast_concat_getLast filled).symm⟩
  obtain ⟨opening, foundOpening, rfl, offset⟩ :=
    exists_getElem?_placeFrom 0 Position.start before first (others ++ behind)
  obtain ⟨closing, foundClosing, rfl, lastOffset⟩ :=
    exists_getElem?_placeFrom 0 Position.start (before ++ earlier) last behind
  have openingShape : before ++ opening.token :: (others ++ behind) = before ++ run ++ behind := by
    simp [runBegins]
  have closingShape : before ++ earlier ++ closing.token :: behind = before ++ run ++ behind := by
    simp [runEnds]
  have index : (before ++ earlier).length = before.length + (run.length - 1) := by
    simp [runEnds]
  have text : (sourceText run).toList = opening.token.lexeme ++ spelling others := by
    rw [runBegins, sourceText, String.toList_ofList]
    rfl
  have spelled :
      spelling before ++ opening.token.gap ++ (opening.token.lexeme ++ spelling others) =
        spelling (before ++ earlier) ++ closing.token.gap ++ closing.token.lexeme := by
    have same := runBegins.symm.trans runEnds
    have both := congrArg (fun tokens => spelling (before ++ tokens)) same
    simpa using both
  have length := congrArg byteLength spelled
  rw [openingShape] at foundOpening
  rw [closingShape, index] at foundClosing
  refine ⟨Nat.le_add_right _ _, opening, closing, foundOpening, foundClosing,
    spelling before ++ opening.token.gap, spelling behind ++ gap, ?_, ?_, ?_⟩
  · rw [shape, text, runBegins]
    simp
  · rw [offset, Nat.zero_add]
  · rw [text, PlacedToken.endOffset, offset, lastOffset]
    simp only [byteLength_append] at length ⊢
    omega

end InitializerJson
