import InitializerJson.Proofs.Lexical.SharedTokens
import InitializerJson.Proofs.Lexical.Spelling
import InitializerJson.Proofs.Position.Order
import Mathlib.Data.List.Induction

namespace InitializerJson

/-!
# Text that is passed over

Comments and directives are passed over: a text behind one is read as the same tokens,
each span further on by the bytes of the comment, or is refused for the same cause at
the corresponding place.  What a comment says does not matter, quotes and marks of
other comments included.  Only a carriage return that stands alone in its line makes a
line comment or directive none, and its characters become tokens.
-/

/-! ## Places -/

namespace Position

/-- The place, in a text that begins at `origin` in another, as the other counts it. -/
def behind
    (place origin : Position) :
    Position :=
  if place.line = 1 then
    ⟨origin.line, origin.column + (place.column - 1)⟩
  else
    ⟨origin.line + (place.line - 1), place.column⟩

/-- The start of a text is where it begins. -/
@[simp] theorem start_behind
    (origin : Position) :
    start.behind origin = origin := by
  rfl

/-- Moving on by a character does not depend on where the text begins. -/
theorem advance_behind
    {place : Position}
    (counted : 1 ≤ place.line ∧ 1 ≤ place.column)
    (origin : Position)
    (character : Char) :
    (place.advance character).behind origin = (place.behind origin).advance character := by
  by_cases newline : character = '\n'
  · have later : ¬ place.line + 1 = 1 := by
      omega
    by_cases first : place.line = 1
    · simp [advance, behind, newline, first]
    · simp only [advance, behind, newline, first, later, ↓reduceIte, mk.injEq, and_true]
      omega
  · by_cases first : place.line = 1
    · simp only [advance, behind, newline, first, ↓reduceIte, mk.injEq, true_and]
      omega
    · simp [advance, behind, newline, first]

/-- A place in a text is counted from where the text begins. -/
theorem after_append
    (front before : List Char) :
    after (front ++ before) = (after before).behind (after front) := by
  induction before using List.reverseRecOn with
  | nil => simp
  | append_singleton before character hypothesis =>
      rw [← List.append_assoc, after_concat, after_concat, hypothesis,
        advance_behind (one_le_after before)]

end Position

namespace Lexical

open Character

/-! ## Gaps -/

/-- A line whose carriage returns stand at its end has its end there. -/
theorem lineEnd?_append
    {body : List Char}
    (unbroken : '\n' ∉ body)
    (returnsLast : '\r' ∉ body.dropLast)
    (rest : List Char) :
    lineEnd? (body ++ '\n' :: rest) = some ('\n' :: rest) ∨
      lineEnd? (body ++ '\n' :: rest) = some ('\r' :: '\n' :: rest) := by
  induction body with
  | nil => exact .inl rfl
  | cons character body hypothesis =>
      rw [List.mem_cons, not_or] at unbroken
      by_cases isReturn : character = '\r'
      · subst isReturn
        cases body with
        | nil => exact .inr rfl
        | cons next others => simp at returnsLast
      · have step : lineEnd? (character :: (body ++ '\n' :: rest)) =
            lineEnd? (body ++ '\n' :: rest) := by
          rw [lineEnd?]
          · exact fun same => unbroken.1 same.symm
          · exact fun _ same => absurd same isReturn
          · exact isReturn
        rw [List.cons_append, step]
        apply hypothesis unbroken.2
        cases body with
        | nil => simp
        | cons next others =>
            rw [List.dropLast_cons_cons] at returnsLast
            exact fun member => returnsLast (.tail _ member)

/--
A comment or directive with what ends it: a line feed behind a line whose carriage
returns stand at its end, or the mark that closes a block.
-/
inductive IsPassed : List Char → Prop where
  /-- A line comment or a directive, by its mark. -/
  | line
      {mark body : List Char} :
      mark = ['/', '/'] ∨ mark = ['#'] →
      '\n' ∉ body →
      '\r' ∉ body.dropLast →
      IsPassed (mark ++ body ++ ['\n'])
  | block
      {body : List Char} :
      ¬ ['*', '/'] <:+: body →
      IsPassed (['/', '*'] ++ body ++ ['*', '/'])

/-- A gap goes on behind a comment or directive as if that were not there. -/
theorem IsPassed.afterGap_append
    {front : List Char}
    (passed : IsPassed front)
    (rest : List Char) :
    afterGap (front ++ rest) = afterGap rest := by
  have behindFeed : afterGap ('\n' :: rest) = afterGap rest :=
    afterGap_of_piece rfl
  cases passed with
  | @line mark body marked unbroken returnsLast =>
      have piece :
          afterGapPiece? (mark ++ body ++ ['\n'] ++ rest) = lineEnd? (body ++ '\n' :: rest) := by
        rcases marked with rfl | rfl <;>
          simp [afterGapPiece?]
      rcases lineEnd?_append unbroken returnsLast rest with ends | ends
      · rw [afterGap_of_piece (piece.trans ends), behindFeed]
      · have behindReturn : afterGap ('\r' :: '\n' :: rest) = afterGap ('\n' :: rest) :=
          afterGap_of_piece rfl
        rw [afterGap_of_piece (piece.trans ends), behindReturn, behindFeed]
  | @block body absent =>
      have first : ¬ ['*', '/'] <:+: body ++ ['*'] := by
        rw [List.infix_concat_iff, not_or]
        refine ⟨fun atEnd => ?_, absent⟩
        obtain ⟨before, shape⟩ := atEnd
        have last := congrArg List.getLast? shape
        simp at last
      have split : splitAtMark? ['*', '/'] (body ++ (['*', '/'] ++ rest)) = some (body, rest) :=
        splitAtMark?_of_first rest (by simp) first
      apply afterGap_of_piece
      simp only [List.append_assoc]
      exact congrArg (Option.map Prod.snd) split

/-! ## Tokens -/

/-- A run of tokens when some more characters stand before its first gap. -/
def TokenRun.behind
    (front : List Char)
    (run : TokenRun) :
    TokenRun :=
  match run.tokens with
  | [] => { run with gap := front ++ run.gap }
  | token :: tokens => { run with tokens := { token with gap := front ++ token.gap } :: tokens }

/-- What is left does not depend on what stands before the first gap. -/
@[simp] theorem TokenRun.rest_behind
    (front : List Char)
    (run : TokenRun) :
    (run.behind front).rest = run.rest := by
  unfold behind
  split <;> rfl

/-- What the tokens stand for does not depend on what stands before the first gap. -/
theorem TokenRun.map_kind_behind
    (front : List Char)
    (run : TokenRun) :
    (run.behind front).tokens.map Token.kind = run.tokens.map Token.kind := by
  unfold behind
  split <;> simp_all

/-- How the tokens are written does not depend on what stands before the first gap. -/
theorem TokenRun.map_lexeme_behind
    (front : List Char)
    (run : TokenRun) :
    (run.behind front).tokens.map Token.lexeme = run.tokens.map Token.lexeme := by
  unfold behind
  split <;> simp_all

/-- The tokens behind what the gap passes over are the same, but for their first gap. -/
theorem readTokens_append
    {front rest : List Char}
    (passed : afterGap (front ++ rest) = afterGap rest) :
    readTokens (front ++ rest) = (readTokens rest).behind front := by
  have gap := taken_append_of_suffix (afterGap_suffix rest) front
  cases read : readBehindGap? (afterGap rest) with
  | none =>
      have readFront : readBehindGap? (afterGap (front ++ rest)) = none := by
        rwa [passed]
      rw [readTokens_of_unread read, readTokens_of_unread readFront, passed, gap]
      rfl
  | some found =>
      obtain ⟨kind, behind⟩ := found
      have readFront : readBehindGap? (afterGap (front ++ rest)) = some (kind, behind) := by
        rwa [passed]
      rw [readTokens_of_read read, readTokens_of_read readFront, passed, gap]
      rfl

/-! ## Spans -/

/-- What a source is read as: the kinds of its tokens with their spans, or an error. -/
def readSpans
    (source : String) :
    Except SyntaxError (List (TokenKind × Nat × Nat)) :=
  (tokenize source).map fun tokens => (placeTokens tokens).map PlacedToken.span

/-- A span that is some bytes further on. -/
def shiftSpan
    (bytes : Nat)
    (span : TokenKind × Nat × Nat) :
    TokenKind × Nat × Nat :=
  (span.1, bytes + span.2.1, bytes + span.2.2)

/-- What a text is read as when it stands behind another: all spans and places are further on. -/
def movedBehind
    (front : List Char) :
    Except SyntaxError (List (TokenKind × Nat × Nat)) →
      Except SyntaxError (List (TokenKind × Nat × Nat))
  | .ok spans => .ok (spans.map (shiftSpan (byteLength front)))
  | .error error => .error { error with position := error.position.behind (Position.after front) }

/-- Tokens that are placed further on have their spans further on. -/
theorem map_span_placeFrom
    (bytes offset : Nat)
    (moved position : Position)
    (tokens : List Token) :
    (placeFrom (bytes + offset) moved tokens).map PlacedToken.span =
      ((placeFrom offset position tokens).map PlacedToken.span).map (shiftSpan bytes) := by
  induction tokens generalizing offset moved position with
  | nil => rfl
  | cons token tokens hypothesis =>
      simp only [placeFrom, List.map_cons, List.cons.injEq, Nat.add_assoc]
      exact ⟨by simp [PlacedToken.span, PlacedToken.endOffset, shiftSpan, Nat.add_assoc],
        hypothesis _ _ _⟩

/-- More characters before the first gap move all the spans. -/
theorem map_span_behind
    (front : List Char)
    (run : TokenRun) :
    (placeTokens (run.behind front).tokens).map PlacedToken.span =
      ((placeTokens run.tokens).map PlacedToken.span).map (shiftSpan (byteLength front)) := by
  obtain ⟨tokens, gap, rest⟩ := run
  cases tokens with
  | nil => rfl
  | cons token tokens =>
      have start :
          0 + byteLength (front ++ token.gap) = byteLength front + (0 + byteLength token.gap) := by
        rw [byteLength_append]
        omega
      simp only [TokenRun.behind, placeTokens, placeFrom, List.map_cons, start, Nat.add_assoc,
        map_span_placeFrom (byteLength front) _ _
          (token.lexeme.foldl Position.advance (token.gap.foldl Position.advance Position.start))]
      simp only [PlacedToken.span, PlacedToken.endOffset, shiftSpan, Nat.add_assoc]

/-- A text behind what its first gap passes over is read as the text alone, further on. -/
theorem readSpans_append
    {front rest : String}
    (passed : afterGap (front.toList ++ rest.toList) = afterGap rest.toList) :
    readSpans (front ++ rest) = movedBehind front.toList (readSpans rest) := by
  have run := readTokens_append passed
  have left := taken_append_of_suffix (rest_suffix rest.toList) front.toList
  unfold readSpans tokenize
  simp only [String.toList_append, run, TokenRun.rest_behind]
  split
  · exact congrArg Except.ok (map_span_behind front.toList _)
  · simp only [left, Position.after_append]
    rfl

/-- A text behind a comment or a directive is read as the text alone, further on. -/
theorem readSpans_passed
    {front : String}
    (passed : IsPassed front.toList)
    (rest : String) :
    readSpans (front ++ rest) = movedBehind front.toList (readSpans rest) :=
  readSpans_append (passed.afterGap_append rest.toList)

/-- A directive with marks of other texts in it, and an open literal in the line behind it. -/
theorem readSpans_passed_directive :
    IsPassed "#if \"é /* '\r\n".toList ∧
      readSpans ("#if \"é /* '\r\n" ++ "né = 'a") =
        movedBehind "#if \"é /* '\r\n".toList (readSpans "né = 'a") := by
  have passed : IsPassed "#if \"é /* '\r\n".toList :=
    show IsPassed (['#'] ++ "if \"é /* '\r".toList ++ ['\n']) from
      .line (.inr rfl) (by decide) (by decide)
  exact ⟨passed, readSpans_passed passed "né = 'a"⟩

/-- The tokens of a comment with a carriage return inside its line. -/
def loneReturnTokens : List Token :=
  [
    ⟨.punctuator .slash, [], ['/']⟩,
    ⟨.punctuator .slash, [], ['/']⟩,
    ⟨.identifier "a", [], ['a']⟩,
    ⟨.identifier "b", ['\r'], ['b']⟩,
    ⟨.identifier "c", ['\n'], ['c']⟩
  ]

/-- A comment with a carriage return inside its line is none: its characters are tokens. -/
theorem readSpans_loneReturn :
    '\n' ∉ "a\rb".toList ∧
      tokenize ("//" ++ "a\rb" ++ "\n" ++ "c") = .ok loneReturnTokens ∧
      readSpans ("//" ++ "a\rb" ++ "\n" ++ "c") ≠
        movedBehind ("//" ++ "a\rb" ++ "\n").toList (readSpans "c") := by
  have tokenized : tokenize ("//" ++ "a\rb" ++ "\n" ++ "c") = .ok loneReturnTokens :=
    tokenize_eq_ok_iff.mpr (by decide +kernel)
  have alone : tokenize "c" = .ok [⟨.identifier "c", [], ['c']⟩] :=
    tokenize_eq_ok_iff.mpr (by decide +kernel)
  refine ⟨by decide, tokenized, fun same => ?_⟩
  rw [readSpans, readSpans, tokenized, alone] at same
  exact absurd (Except.ok.inj same) (by decide +kernel)

end Lexical

end InitializerJson
