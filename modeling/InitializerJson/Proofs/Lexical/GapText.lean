import InitializerJson.Lexical.Gap

namespace InitializerJson.Lexical

open Character

/-!
# The text of a gap

What stands between two tokens is a sequence of complete pieces: blanks, line
comments and directives up to their line end, and block comments that are
closed.  Passing over a gap takes exactly such a sequence.
-/

/-- A line ends before a line break, or with the text. -/
inductive EndsLine : List Char → Prop where
  | ofNil :
      EndsLine []
  | lineFeed
      (rest : List Char) :
      EndsLine ('\n' :: rest)
  | carriageReturn
      (rest : List Char) :
      EndsLine ('\r' :: '\n' :: rest)

/--
`GapText gap rest` says that `gap` is a sequence of complete pieces when the
text `rest` follows it.  A comment or directive is complete only where its line
ends, so what follows has a part in it.
-/
inductive GapText : List Char → List Char → Prop where
  | nil
      {rest : List Char} :
      GapText [] rest
  | blank
      {character : Char}
      {gap rest : List Char} :
      isBlank character = true →
      GapText gap rest →
      GapText (character :: gap) rest
  /-- A line comment or a directive, by its mark. -/
  | line
      {mark body gap rest : List Char} :
      mark = ['/', '/'] ∨ mark = ['#'] →
      (∀ character ∈ body, character ≠ '\n' ∧ character ≠ '\r') →
      EndsLine (gap ++ rest) →
      GapText gap rest →
      GapText (mark ++ body ++ gap) rest
  | block
      {body gap rest : List Char} :
      ¬ ['*', '/'] <:+: body →
      GapText gap rest →
      GapText (['/', '*'] ++ body ++ ['*', '/'] ++ gap) rest

/-- Up to its end a line holds no line break and no carriage return. -/
theorem exists_line_of_lineEnd?
    {text rest : List Char}
    (found : lineEnd? text = some rest) :
    ∃ body,
      text = body ++ rest ∧
        (∀ character ∈ body, character ≠ '\n' ∧ character ≠ '\r') ∧
        EndsLine rest := by
  fun_induction lineEnd? text with
  | case1 =>
      cases found
      exact ⟨[], rfl, by simp, .ofNil⟩
  | case2 behind =>
      cases found
      exact ⟨[], rfl, by simp, .lineFeed behind⟩
  | case3 behind =>
      cases found
      exact ⟨[], rfl, by simp, .carriageReturn behind⟩
  | case4 => cases found
  | case5 character behind notFeed notReturn notLone hypothesis =>
      obtain ⟨body, shape, oneLine, ends⟩ := hypothesis found
      refine ⟨character :: body, by rw [shape]; rfl, ?_, ends⟩
      intro each member
      rcases List.mem_cons.mp member with rfl | inBody
      · exact ⟨notFeed, notLone⟩
      · exact oneLine each inBody

/-- One piece of a gap in front of complete pieces makes complete pieces. -/
theorem exists_piece_of_afterGapPiece?
    {text rest : List Char}
    (found : afterGapPiece? text = some rest) :
    ∃ piece,
      text = piece ++ rest ∧
        ∀ {gap behind : List Char},
          rest = gap ++ behind →
          GapText gap behind →
          GapText (piece ++ gap) behind := by
  unfold afterGapPiece? at found
  split at found
  · next line =>
      obtain ⟨body, shape, oneLine, ends⟩ := exists_line_of_lineEnd? found
      refine ⟨['/', '/'] ++ body, by rw [shape]; simp, ?_⟩
      intro gap behind split complete
      exact .line (.inl rfl) oneLine (split ▸ ends) complete
  · next opened =>
      obtain ⟨parts, split, rfl⟩ := Option.map_eq_some_iff.mp found
      have shape := eq_append_of_splitAtMark? split
      refine ⟨['/', '*'] ++ parts.1 ++ ['*', '/'], by rw [shape]; simp, ?_⟩
      intro gap behind _ complete
      exact .block (not_infix_of_splitAtMark? split (by simp)) complete
  · next line =>
      obtain ⟨body, shape, oneLine, ends⟩ := exists_line_of_lineEnd? found
      refine ⟨['#'] ++ body, by rw [shape]; simp, ?_⟩
      intro gap behind split complete
      exact .line (.inr rfl) oneLine (split ▸ ends) complete
  · next character behind _ _ _ =>
      split at found
      · next blank =>
          cases found
          exact ⟨[character], rfl, fun _ complete => .blank blank complete⟩
      · cases found
  · cases found

/-- What is passed over as a gap is a sequence of complete pieces. -/
theorem gapText_afterGap
    (text : List Char) :
    GapText (taken text (afterGap text)) (afterGap text) := by
  fun_induction afterGap text with
  | case1 text rest piece hypothesis =>
      obtain ⟨front, shape, prolongs⟩ := exists_piece_of_afterGapPiece? piece
      have whole : front ++ taken rest (afterGap rest) ++ afterGap rest = text := by
        rw [List.append_assoc, taken_append (afterGap_suffix rest), shape]
      have complete := prolongs (taken_append (afterGap_suffix rest)).symm hypothesis
      rw [← whole, taken_append_left]
      exact complete
  | case2 text piece =>
      simp [taken, GapText.nil]

/-- Behind a gap no other piece of it begins. -/
theorem solid_afterGap
    (text : List Char) :
    afterGapPiece? (afterGap text) = none := by
  fun_induction afterGap text with
  | case1 text rest piece hypothesis => exact hypothesis
  | case2 text piece => exact piece

/-- What begins no piece of a gap is no blank. -/
theorem isBlank_of_solid
    {first : Char}
    {others : List Char}
    (solid : afterGapPiece? (first :: others) = none) :
    isBlank first = false := by
  rw [← Bool.not_eq_true]
  intro blank
  have passed : afterGapPiece? (first :: others) = some others := by
    have notSlash : first ≠ '/' := by
      rintro rfl
      exact absurd blank (by decide)
    have notHash : first ≠ '#' := by
      rintro rfl
      exact absurd blank (by decide)
    unfold afterGapPiece?
    split <;> simp_all
  rw [solid] at passed
  cases passed

/-- Before a character that is no blank a line ends inside the gap, if it ends there. -/
theorem EndsLine.of_solid
    {gap rest : List Char}
    {first : Char}
    (ends : EndsLine (gap ++ first :: rest))
    (notBlank : isBlank first = false)
    (other : List Char) :
    EndsLine (gap ++ other) := by
  generalize shape : gap ++ first :: rest = text at ends
  cases ends with
  | ofNil => simp at shape
  | lineFeed =>
      cases gap with
      | nil =>
          cases shape
          exact absurd notBlank (by decide)
      | cons head gap =>
          cases shape
          exact .lineFeed _
  | carriageReturn =>
      match gap, shape with
      | [], shape =>
          cases shape
          exact absurd notBlank (by decide)
      | [_], shape =>
          cases shape
          exact absurd notBlank (by decide)
      | _ :: _ :: _, shape =>
          cases shape
          exact .carriageReturn _

/-- The pieces of a gap before a character that is no blank are complete before any text. -/
theorem GapText.of_solid
    {gap rest : List Char}
    {first : Char}
    (complete : GapText gap (first :: rest))
    (notBlank : isBlank first = false)
    (other : List Char) :
    GapText gap other := by
  generalize shape : first :: rest = text at complete
  induction complete with
  | nil => exact .nil
  | blank blank _ hypothesis => exact .blank blank (hypothesis shape)
  | line marked oneLine ends _ hypothesis =>
      subst shape
      exact .line marked oneLine (ends.of_solid notBlank other) (hypothesis rfl)
  | block absent _ hypothesis => exact .block absent (hypothesis shape)

end InitializerJson.Lexical
