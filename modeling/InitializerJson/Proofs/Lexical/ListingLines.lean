import InitializerJson.Proofs.Lexical.FramedText
import InitializerJson.Proofs.Lexical.Tiling
import InitializerJson.Proofs.Lexical.UnbrokenTexts
import InitializerJson.Proofs.Number.DecimalDigits
import InitializerJson.Proofs.Position.Order
import Mathlib.Data.List.Forall2

namespace InitializerJson.Lexical

/-!
# The lines of a listing

Every token is shown on lines of its own.  The first of them begins with the position and
the class of the token, and there is one more for each line feed in what is shown of it.
The positions are those of the tokens' first characters, each later than the one before.
-/

/-! ## Lines of a text -/

section Separated

variable
  {α : Type}
  [DecidableEq α]

/-- The parts with the separator behind each of them make up the text and one separator. -/
theorem flatMap_splitAtEach
    (separator : α)
    (items : List α) :
    (splitAtEach separator items).flatMap (· ++ [separator]) = items ++ [separator] := by
  fun_induction splitAtEach separator items with
  | case1 => rfl
  | case2 items hypothesis => simpa using hypothesis
  | case3 item items _ parts hypothesis => simp [parts] at hypothesis
  | case4 item items _ part parts shape hypothesis => simpa [shape] using hypothesis

/-- No part has the separator. -/
theorem notMem_of_mem_splitAtEach
    (separator : α)
    (items : List α) :
    ∀ part ∈ splitAtEach separator items, separator ∉ part := by
  fun_induction splitAtEach separator items with
  | case1 => simp
  | case2 items hypothesis => simpa using hypothesis
  | case3 item items apart parts hypothesis => simpa using Ne.symm apart
  | case4 item items apart part parts shape hypothesis =>
      rw [shape, List.forall_mem_cons] at hypothesis
      simpa [Ne.symm apart] using hypothesis

/-- There is one part more than separators. -/
theorem length_splitAtEach
    (separator : α)
    (items : List α) :
    (splitAtEach separator items).length = items.count separator + 1 := by
  fun_induction splitAtEach separator items with
  | case1 => rfl
  | case2 items hypothesis => simp [hypothesis]
  | case3 item items apart parts hypothesis => simp [parts] at hypothesis
  | case4 item items apart part parts shape hypothesis =>
      rw [List.count_cons_of_ne apart, ← hypothesis, shape]
      rfl

/-- What has no separator stands in front of the first part. -/
theorem exists_splitAtEach_append
    {separator : α}
    {front : List α}
    (absent : separator ∉ front)
    (items : List α) :
    ∃ first others,
      splitAtEach separator items = first :: others ∧
        splitAtEach separator (front ++ items) = (front ++ first) :: others := by
  induction front with
  | nil =>
      obtain ⟨first, others, shape⟩ :=
        List.exists_cons_of_ne_nil (splitAtEach_ne_nil separator items)
      exact ⟨first, others, shape, shape⟩
  | cons item front hypothesis =>
      rw [List.mem_cons, not_or] at absent
      obtain ⟨first, others, shape, parts⟩ := hypothesis absent.2
      refine ⟨first, others, shape, ?_⟩
      rw [List.cons_append, splitAtEach, if_neg (Ne.symm absent.1), parts]
      rfl

end Separated

/-- A text is made up of some lines: none has a line feed in it, and each has one behind it. -/
structure IsLines
    (text : List Char)
    (lines : List (List Char)) :
    Prop where
  joined : text = lines.flatMap (· ++ ['\n'])
  unbroken : ∀ line ∈ lines, '\n' ∉ line

/-- There are as many lines as line feeds, so that a text is made up of one number of lines. -/
theorem IsLines.length_eq
    {text : List Char}
    {lines : List (List Char)}
    (isLines : IsLines text lines) :
    lines.length = text.count '\n' := by
  obtain ⟨rfl, unbroken⟩ := isLines
  induction lines with
  | nil => rfl
  | cons line lines hypothesis =>
      rw [List.forall_mem_cons] at unbroken
      simp [List.count_append, List.count_eq_zero.mpr unbroken.1, hypothesis unbroken.2,
        Nat.add_comm]

/-- A text with a line feed behind it is made up of the parts between its line feeds. -/
theorem isLines_splitAtEach
    (text : List Char) :
    IsLines (text ++ ['\n']) (splitAtEach '\n' text) where
  joined := (flatMap_splitAtEach '\n' text).symm
  unbroken := notMem_of_mem_splitAtEach '\n' text

/-- Texts that are made up of lines are joined to one with all of their lines. -/
theorem isLines_flatMap
    {α : Type}
    {items : List α}
    {text : α → List Char}
    {lines : α → List (List Char)}
    (each : ∀ item ∈ items, IsLines (text item) (lines item)) :
    IsLines (items.flatMap text) (items.flatMap lines) where
  joined := by
    rw [List.flatMap_assoc]
    exact List.flatMap_congr fun item member => (each item member).joined
  unbroken := by
    intro line member
    obtain ⟨item, inside, own⟩ := List.mem_flatMap.mp member
    exact (each item inside).unbroken line own

/-! ## Lines of tokens -/

namespace PlacedToken

/-- The position and the class of a token as the listing shows them. -/
def heading
    (placed : PlacedToken) :
    List Char :=
  (toString placed.position.line ++ ":" ++ toString placed.position.column ++
    "\t" ++ placed.token.kind.className ++ "\t").toList

/-- The lines on which a token is listed. -/
def ownLines
    (placed : PlacedToken) :
    List (List Char) :=
  splitAtEach '\n' (placed.heading ++ placed.token.kind.shownText.toList)

/-- A line begins with the position and the class of a token. -/
def Heads
    (placed : PlacedToken)
    (line : List Char) :
    Prop :=
  placed.heading <+: line

/--
Some lines show a token: the first begins with its position and class, and the others
are as many as the line feeds in what is shown of it.
-/
def IsShownOn
    (placed : PlacedToken)
    (lines : List (List Char)) :
    Prop :=
  ∃ first others,
    lines = first :: others ∧
      placed.Heads first ∧
      others.length = placed.token.kind.breaks

/-- Numbers and names of classes have no line feed. -/
theorem notMem_heading
    (placed : PlacedToken) :
    '\n' ∉ placed.heading := by
  have noDigit (number : Nat) : '\n' ∉ Nat.toDigits 10 number :=
    fun member => absurd (isDigit_of_mem_decimalDigits number _ member) (by decide)
  have noName : '\n' ∉ placed.token.kind.className.toList := by
    cases placed.token.kind <;> simp [TokenKind.className]
  simp [heading, Nat.toString_eq_repr, Nat.toList_repr, noDigit, noName]

/-- A token is listed on its own lines. -/
theorem isLines_listingLine
    (placed : PlacedToken) :
    IsLines placed.listingLine.toList placed.ownLines := by
  have shape :
      placed.listingLine.toList =
        placed.heading ++ placed.token.kind.shownText.toList ++ ['\n'] := by
    simp [listingLine, heading]
  rw [shape]
  exact isLines_splitAtEach _

/-- The lines on which a token is listed show it. -/
theorem isShownOn_ownLines
    {placed : PlacedToken}
    (counted :
      placed.token.kind.shownText.toList.count '\n' = placed.token.kind.breaks) :
    placed.IsShownOn placed.ownLines := by
  obtain ⟨first, others, shape, parts⟩ :=
    exists_splitAtEach_append placed.notMem_heading placed.token.kind.shownText.toList
  have length := length_splitAtEach '\n' placed.token.kind.shownText.toList
  rw [shape, counted, List.length_cons] at length
  exact ⟨placed.heading ++ first, others, parts, List.prefix_append _ _,
    Nat.succ.inj length⟩

/-- There is one line at least for each token. -/
theorem length_le_of_isShownOn
    {placed : List PlacedToken}
    {groups : List (List (List Char))}
    (shown : List.Forall₂ IsShownOn placed groups) :
    placed.length ≤ groups.flatten.length := by
  induction shown with
  | nil => exact Nat.le_refl 0
  | cons own _ hypothesis =>
      obtain ⟨first, others, rfl, _, _⟩ := own
      simp only [List.flatten_cons, List.length_append, List.length_cons]
      omega

/-- If there are no more lines than tokens, no line feed is shown. -/
theorem unbroken_of_length_le
    {placed : List PlacedToken}
    {groups : List (List (List Char))}
    (shown : List.Forall₂ IsShownOn placed groups)
    (few : groups.flatten.length ≤ placed.length) :
    ∀ token ∈ placed, token.token.kind.breaks = 0 := by
  induction shown with
  | nil => exact List.forall_mem_nil _
  | cons own shown hypothesis =>
      obtain ⟨first, others, rfl, _, count⟩ := own
      have enough := length_le_of_isShownOn shown
      simp only [List.flatten_cons, List.length_append, List.length_cons, count] at few
      exact List.forall_mem_cons.mpr ⟨by omega, hypothesis (by omega)⟩

/-- Tokens without line feeds are shown on one line each. -/
theorem heads_flatten_of_isShownOn
    {placed : List PlacedToken}
    {groups : List (List (List Char))}
    (shown : List.Forall₂ IsShownOn placed groups)
    (unbroken : ∀ token ∈ placed, token.token.kind.breaks = 0) :
    List.Forall₂ Heads placed groups.flatten := by
  induction shown with
  | nil => exact .nil
  | cons own _ hypothesis =>
      rw [List.forall_mem_cons] at unbroken
      obtain ⟨first, others, rfl, heads, count⟩ := own
      rw [unbroken.1, List.length_eq_zero_iff] at count
      subst count
      exact .cons heads (hypothesis unbroken.2)

/-- Every token is shown on one line exactly if no line feed is shown. -/
theorem heads_flatten_iff_of_isShownOn
    {placed : List PlacedToken}
    {groups : List (List (List Char))}
    (shown : List.Forall₂ IsShownOn placed groups) :
    List.Forall₂ Heads placed groups.flatten ↔
      ∀ token ∈ placed, token.token.kind.breaks = 0 := by
  refine ⟨fun heads => ?_, heads_flatten_of_isShownOn shown⟩
  exact unbroken_of_length_le shown (Nat.le_of_eq heads.length_eq.symm)

end PlacedToken

/-- Placing tokens keeps them. -/
theorem map_token_placeFrom
    (offset : Nat)
    (position : Position)
    (tokens : List Token) :
    (placeFrom offset position tokens).map PlacedToken.token = tokens := by
  induction tokens generalizing offset position with
  | nil => rfl
  | cons token tokens hypothesis => exact congrArg (token :: ·) (hypothesis _ _)

/-- The listing of the tokens of a source shows each of them on lines of its own. -/
theorem exists_groups_of_tokenize
    {source : String}
    {tokens : List Token}
    (tokenized : tokenize source = .ok tokens) :
    ∃ groups,
      IsLines (listing tokens).toList groups.flatten ∧
        List.Forall₂ PlacedToken.IsShownOn (placeTokens tokens) groups := by
  obtain ⟨rfl, _⟩ := tokenize_eq_ok_iff.mp tokenized
  have counted := count_shownText_readTokens source.toList
  generalize (readTokens source.toList).tokens = tokens at counted ⊢
  refine ⟨(placeTokens tokens).map PlacedToken.ownLines, ?_, ?_⟩
  · have lines : IsLines
        ((placeTokens tokens).flatMap fun placed => placed.listingLine.toList)
        ((placeTokens tokens).flatMap PlacedToken.ownLines) :=
      isLines_flatMap fun placed _ => placed.isLines_listingLine
    rw [listing, String.toList_join, List.flatMap_map, ← List.flatMap_def]
    exact lines
  · rw [List.forall₂_map_right_iff, List.forall₂_same]
    intro placed member
    have inside : placed.token ∈ tokens := by
      rw [← map_token_placeFrom 0 Position.start tokens]
      exact List.mem_map_of_mem member
    exact PlacedToken.isShownOn_ownLines (counted _ inside)

/-! ## Positions of tokens -/

/-- A token stands in a text at its place: its characters are there, and nothing else. -/
def PlacedToken.StandsIn
    (placed : PlacedToken)
    (text : List Char) :
    Prop :=
  ∃ before behind,
    text = before ++ (placed.token.lexeme ++ behind) ∧
      placed.offset = byteLength before ∧
      placed.position = Position.after before

/-- Tokens that cover the end of a text stand in it, once placed. -/
theorem Covers.standsIn
    {tokens : List Token}
    {text : List Char}
    (covers : Covers tokens text)
    (before : List Char) :
    ∀ placed ∈ placeFrom (byteLength before) (Position.after before) tokens,
      placed.StandsIn (before ++ text) := by
  induction covers generalizing before with
  | nil => exact List.forall_mem_nil _
  | @cons token tokens rest _ _ _ _ hypothesis =>
      have later := hypothesis (before ++ token.gap ++ token.lexeme)
      simp only [byteLength_append, Position.after_append_eq_foldl] at later
      refine List.forall_mem_cons.mpr ⟨⟨before ++ token.gap, rest, ?_, ?_, ?_⟩, ?_⟩
      · simp only [List.append_assoc]
      · exact (byteLength_append before token.gap).symm
      · exact (Position.after_append_eq_foldl before token.gap).symm
      · simpa only [List.append_assoc] using later

/-- Tokens that cover a text are placed behind every position before it, in their order. -/
theorem Covers.precedes
    {tokens : List Token}
    {text : List Char}
    (covers : Covers tokens text)
    (offset : Nat)
    (position : Position) :
    (∀ earlier : Position,
      earlier.Precedes position →
        ∀ placed ∈ placeFrom offset position tokens, earlier.Precedes placed.position) ∧
      (placeFrom offset position tokens).Pairwise fun first second =>
        first.position.Precedes second.position := by
  induction covers generalizing offset position with
  | nil => exact ⟨fun _ _ => List.forall_mem_nil _, .nil⟩
  | @cons token tokens rest _ nonempty _ _ hypothesis =>
      let place := token.gap.foldl Position.advance position
      obtain ⟨behind, ordered⟩ := hypothesis
        (offset + byteLength token.gap + byteLength token.lexeme)
        (token.lexeme.foldl Position.advance place)
      refine ⟨fun earlier before => ?_, .cons ?_ ordered⟩
      · have own : earlier.Precedes place := before.foldl_advance token.gap
        exact List.forall_mem_cons.mpr ⟨own, behind earlier (own.foldl_advance token.lexeme)⟩
      · exact behind place (place.precedes_foldl_advance nonempty)

/-- The tokens of a source stand in it at their places, each behind the ones before it. -/
theorem standsIn_and_precedes_of_tokenize
    {source : String}
    {tokens : List Token}
    (tokenized : tokenize source = .ok tokens) :
    (∀ placed ∈ placeTokens tokens, placed.StandsIn source.toList) ∧
      (placeTokens tokens).Pairwise fun first second =>
        first.position.Precedes second.position := by
  have covers := covers_of_tokenize tokenized
  exact ⟨covers.standsIn [], (covers.precedes 0 Position.start).2⟩

end InitializerJson.Lexical
