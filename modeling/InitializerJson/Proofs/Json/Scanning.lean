import InitializerJson.Proofs.Character.Classes
import InitializerJson.Proofs.Json.Document

namespace InitializerJson.JsonText

open Character

/-!
# Scans of JSON text

A scan passes over JSON text from left to right.  It knows whether it is inside a
string, where a backslash protects the character behind it, and how many
containers are open.  Whatever a string says, the scan is outside again behind it.

Two texts are laid out alike when the first one has nothing but spaces and line
breaks more than the second one, and when its lines are indented by the containers
that are open.  Texts that are laid out alike may be put behind one another.
-/

/-- Where a scan stands with respect to strings. -/
inductive Quotation where
  | outside
  | inside
  /-- Inside a string, right behind a backslash. -/
  | escaped
  deriving Repr, DecidableEq

/-- A scan of JSON text up to some place. -/
structure Scan where
  quotation : Quotation
  /-- The number of containers that are open. -/
  opened : Nat
  deriving Repr, DecidableEq

/-- Brackets that open a container. -/
def isOpening
    (character : Char) :
    Bool :=
  character == '[' || character == '\x7b'

/-- Brackets that close a container. -/
def isClosing
    (character : Char) :
    Bool :=
  character == ']' || character == '\x7d'

namespace Scan

/-- The scan before a text. -/
def start : Scan where
  quotation :=
    .outside
  opened :=
    0

/-- The scan behind one more character. -/
def step
    (scan : Scan)
    (character : Char) :
    Scan :=
  match scan.quotation with
  | .outside =>
      if character = '"' then
        { scan with quotation := .inside }
      else if isOpening character then
        { scan with opened := scan.opened + 1 }
      else if isClosing character then
        { scan with opened := scan.opened - 1 }
      else
        scan
  | .inside =>
      if character = '"' then
        { scan with quotation := .outside }
      else if character = '\\' then
        { scan with quotation := .escaped }
      else
        scan
  | .escaped => { scan with quotation := .inside }

/-- The scan behind a text. -/
def after
    (scan : Scan)
    (text : List Char) :
    Scan :=
  text.foldl step scan

/-- A text without the spaces and line breaks that are outside strings. -/
def withoutSpace
    (scan : Scan) :
    List Char → List Char
  | [] => []
  | character :: rest =>
      if scan.quotation = .outside ∧ (character = ' ' ∨ character = '\n') then
        (scan.step character).withoutSpace rest
      else
        character :: (scan.step character).withoutSpace rest

/-- The characters of a text that are outside strings. -/
def outsideStrings
    (scan : Scan) :
    List Char → List Char
  | [] => []
  | character :: rest =>
      if scan.quotation = .outside then
        character :: (scan.step character).outsideStrings rest
      else
        (scan.step character).outsideStrings rest

/-- Behind two texts a scan stands where it is behind the second one. -/
theorem after_append
    (scan : Scan)
    (first second : List Char) :
    scan.after (first ++ second) = (scan.after first).after second :=
  List.foldl_append

/-- Two texts lose their spaces one after the other. -/
theorem withoutSpace_append
    (scan : Scan)
    (first second : List Char) :
    scan.withoutSpace (first ++ second) =
      scan.withoutSpace first ++ (scan.after first).withoutSpace second := by
  induction first generalizing scan with
  | nil => rfl
  | cons character first hypothesis =>
      rw [List.cons_append, withoutSpace, withoutSpace, hypothesis]
      split <;> rfl

/-- What is outside strings in two texts is outside strings in one of them. -/
theorem outsideStrings_append
    (scan : Scan)
    (first second : List Char) :
    scan.outsideStrings (first ++ second) =
      scan.outsideStrings first ++ (scan.after first).outsideStrings second := by
  induction first generalizing scan with
  | nil => rfl
  | cons character first hypothesis =>
      rw [List.cons_append, outsideStrings, outsideStrings, hypothesis]
      split <;> rfl

/-- A line break opens and closes no container. -/
theorem opened_after_lineBreak
    (scan : Scan) :
    (scan.after ['\n']).opened = scan.opened := by
  obtain ⟨quotation, opened⟩ := scan
  cases quotation <;> rfl

end Scan

/-! ## Lines -/

/--
A line begins with two spaces for each open container, and then with another
character.  A bracket at its front has closed its container already.
-/
def IsIndented
    (opened : Nat)
    (line : List Char) :
    Prop :=
  ∃ first rest,
    line = List.replicate (2 * (opened - if isClosing first then 1 else 0)) ' ' ++ first :: rest ∧
      isWhiteSpace first = false

/-- Every line that begins in a text is indented by the containers that are open there. -/
def IndentsLines
    (scan : Scan)
    (text : List Char) :
    Prop :=
  ∀ before line, text = before ++ '\n' :: line → IsIndented (scan.after before).opened line

section Lines

variable
  {scan : Scan}
  {first second : List Char}

/-- A line stays indented when it goes on. -/
theorem IsIndented.append
    {opened : Nat}
    {line : List Char}
    (indented : IsIndented opened line)
    (more : List Char) :
    IsIndented opened (line ++ more) := by
  obtain ⟨character, rest, rfl, visible⟩ := indented
  exact ⟨character, rest ++ more, by rw [List.append_assoc, List.cons_append], visible⟩

/-- No line begins in a text without a line break. -/
theorem indentsLines_of_notMem
    (single : '\n' ∉ first) :
    IndentsLines scan first := by
  rintro before line rfl
  exact absurd (List.mem_append_right before List.mem_cons_self) single

/-- The lines of two texts are indented when they are in each of them. -/
theorem IndentsLines.append
    (firstLines : IndentsLines scan first)
    (secondLines : IndentsLines (scan.after first) second) :
    IndentsLines scan (first ++ second) := by
  intro before line shape
  rcases List.append_eq_append_iff.mp shape with ⟨between, rfl, inSecond⟩ | ⟨between, rfl, behind⟩
  · rw [Scan.after_append]
    exact secondLines between line inSecond
  · cases between with
    | nil =>
        rw [List.append_nil] at secondLines
        exact secondLines [] line behind.symm
    | cons character others =>
        rw [List.cons_append, List.cons.injEq] at behind
        obtain ⟨rfl, rfl⟩ := behind
        exact (firstLines before others rfl).append second

/-- A text behind a line break is indented in all its lines when its first one is. -/
theorem IndentsLines.cons
    (indented : IsIndented scan.opened first)
    (lines : IndentsLines (scan.step '\n') first) :
    IndentsLines scan ('\n' :: first) := by
  intro before line shape
  cases before with
  | nil =>
      rw [List.nil_append, List.cons.injEq] at shape
      rw [← shape.2]
      exact indented
  | cons character before =>
      rw [List.cons_append, List.cons.injEq] at shape
      obtain ⟨rfl, rfl⟩ := shape
      exact lines before line rfl

end Lines

/-! ## Strings -/

/-- Text that keeps a scan inside a string. -/
structure StaysInside
    (text : List Char) :
    Prop where
  after : ∀ opened, (Scan.mk .inside opened).after text = ⟨.inside, opened⟩
  withoutSpace : ∀ opened, (Scan.mk .inside opened).withoutSpace text = text
  outsideStrings : ∀ opened, (Scan.mk .inside opened).outsideStrings text = []
  notMem : '\n' ∉ text

namespace StaysInside

/-- No text keeps a scan where it is. -/
theorem nil :
    StaysInside [] where
  after _ := rfl
  withoutSpace _ := rfl
  outsideStrings _ := rfl
  notMem := List.not_mem_nil

/-- Two texts keep a scan inside a string when each of them does. -/
theorem append
    {first second : List Char}
    (firstStays : StaysInside first)
    (secondStays : StaysInside second) :
    StaysInside (first ++ second) where
  after opened := by
    rw [Scan.after_append, firstStays.after, secondStays.after]
  withoutSpace opened := by
    rw [Scan.withoutSpace_append, firstStays.after, firstStays.withoutSpace,
      secondStays.withoutSpace]
  outsideStrings opened := by
    rw [Scan.outsideStrings_append, firstStays.after, firstStays.outsideStrings,
      secondStays.outsideStrings, List.nil_append]
  notMem inBoth := by
    rcases List.mem_append.mp inBoth with inFirst | inSecond
    · exact firstStays.notMem inFirst
    · exact secondStays.notMem inSecond

/-- A character that is neither a quote nor a backslash stands for itself. -/
theorem plain
    {character : Char}
    (notQuote : character ≠ '"')
    (notBackslash : character ≠ '\\')
    (notBreak : character ≠ '\n') :
    StaysInside [character] where
  after opened := by
    simp [Scan.after, Scan.step, notQuote, notBackslash]
  withoutSpace opened := by
    simp [Scan.withoutSpace]
  outsideStrings opened := by
    simp [Scan.outsideStrings]
  notMem := by
    simpa using Ne.symm notBreak

/-- Any character but a line break may stand behind a backslash. -/
theorem escape
    {character : Char}
    (notBreak : character ≠ '\n') :
    StaysInside ['\\', character] where
  after opened := by
    simp [Scan.after, Scan.step]
  withoutSpace opened := by
    simp [Scan.withoutSpace, Scan.step]
  outsideStrings opened := by
    simp [Scan.outsideStrings, Scan.step]
  notMem := by
    simpa using Ne.symm notBreak

/-- Hexadecimal digits stand for themselves. -/
theorem hexDigits
    {digits : List Char}
    (areDigits : ∀ digit ∈ digits, isHexDigit digit = true) :
    StaysInside digits := by
  induction digits with
  | nil => exact .nil
  | cons digit digits hypothesis =>
      obtain ⟨first, others⟩ := List.forall_mem_cons.mp areDigits
      have stays : StaysInside [digit] :=
        plain (ne_of_class first rfl) (ne_of_class first rfl) (ne_of_class first rfl)
      exact stays.append (hypothesis others)

/-- A code unit stands for itself. -/
theorem codeUnit
    {digits : List Char}
    {unit : Nat}
    (written : UnitText digits unit) :
    StaysInside ('\\' :: 'u' :: digits) := by
  have mark : StaysInside ['\\', 'u'] :=
    escape (by decide)
  exact mark.append (hexDigits written.isHexDigit)

end StaysInside

/-- A character of a string keeps a scan inside the string, however it is written. -/
theorem CharacterText.staysInside
    {written : List Char}
    {character : Char}
    (text : CharacterText written character) :
    StaysInside written := by
  cases text with
  | plain printable notQuote notBackslash =>
      refine .plain notQuote notBackslash ?_
      rintro rfl
      exact absurd printable (by decide)
  | @short mark _ known =>
      refine .escape ?_
      rintro rfl
      cases known
  | code unit => exact .codeUnit unit
  | pair first second =>
      exact (StaysInside.codeUnit first).append (StaysInside.codeUnit second)

/-- The body of a string keeps a scan inside the string. -/
theorem BodyText.staysInside
    {body value : List Char}
    (text : BodyText body value) :
    StaysInside body := by
  induction text with
  | nil => exact .nil
  | cons first _ hypothesis => exact first.staysInside.append hypothesis

/-! ## Texts that are laid out alike -/

/--
An indented text and a compact one that are laid out alike, from a place with some
open containers to another one.
-/
structure LaidOut
    (before after : Nat)
    (indented compact : List Char) :
    Prop where
  leaves : (Scan.mk .outside before).after indented = ⟨.outside, after⟩
  leavesCompact : (Scan.mk .outside before).after compact = ⟨.outside, after⟩
  /-- The indented text has spaces and line breaks more. -/
  stripped : (Scan.mk .outside before).withoutSpace indented = compact
  /-- The compact text has no white space outside strings. -/
  dense :
    ∀ character ∈ (Scan.mk .outside before).outsideStrings compact, isWhiteSpace character = false
  /-- The lines of the indented text show the open containers. -/
  lines : IndentsLines ⟨.outside, before⟩ indented

/-- Whether a character opens and closes nothing, and is no white space. -/
def isPlainMark
    (character : Char) :
    Bool :=
  character != '"' && !isOpening character && !isClosing character && !isWhiteSpace character

namespace LaidOut

variable
  {before between after : Nat}
  {indented compact moreIndented moreCompact : List Char}

/-- Texts that are laid out alike may be put behind one another. -/
theorem append
    (first : LaidOut before between indented compact)
    (second : LaidOut between after moreIndented moreCompact) :
    LaidOut before after (indented ++ moreIndented) (compact ++ moreCompact) where
  leaves := by
    rw [Scan.after_append, first.leaves, second.leaves]
  leavesCompact := by
    rw [Scan.after_append, first.leavesCompact, second.leavesCompact]
  stripped := by
    rw [Scan.withoutSpace_append, first.leaves, first.stripped, second.stripped]
  dense character member := by
    rw [Scan.outsideStrings_append, first.leavesCompact] at member
    rcases List.mem_append.mp member with inFirst | inSecond
    · exact first.dense character inFirst
    · exact second.dense character inSecond
  lines := by
    refine first.lines.append ?_
    rw [first.leaves]
    exact second.lines

/-- The empty text is laid out like itself. -/
theorem nil :
    LaidOut before before [] [] where
  leaves := rfl
  leavesCompact := rfl
  stripped := rfl
  dense := List.forall_mem_nil _
  lines := indentsLines_of_notMem List.not_mem_nil

/-- A visible character that begins no string is laid out like itself. -/
theorem single
    {character : Char}
    (step : (Scan.mk .outside before).step character = ⟨.outside, after⟩)
    (visible : isWhiteSpace character = false) :
    LaidOut before after [character] [character] := by
  have notSpace : character ≠ ' ' := by
    rintro rfl
    exact absurd visible (by decide)
  have notBreak : character ≠ '\n' := by
    rintro rfl
    exact absurd visible (by decide)
  exact {
    leaves := step
    leavesCompact := step
    stripped := by
      simp [Scan.withoutSpace, notSpace, notBreak]
    dense := by
      simp [Scan.outsideStrings, visible]
    lines :=
      indentsLines_of_notMem (by simpa using Ne.symm notBreak)
  }

/-- A plain mark is laid out like itself. -/
theorem mark
    {character : Char}
    (plain : isPlainMark character = true) :
    LaidOut before before [character] [character] := by
  simp only [isPlainMark, Bool.and_eq_true, bne_iff_ne, Bool.not_eq_true'] at plain
  obtain ⟨⟨⟨notQuote, notOpening⟩, notClosing⟩, visible⟩ := plain
  exact single (by simp [Scan.step, notQuote, notOpening, notClosing]) visible

/-- Plain marks are laid out like themselves. -/
theorem marks
    {characters : List Char}
    (plain : ∀ character ∈ characters, isPlainMark character = true) :
    LaidOut before before characters characters := by
  induction characters with
  | nil => exact nil
  | cons character characters hypothesis =>
      obtain ⟨first, others⟩ := List.forall_mem_cons.mp plain
      exact (mark first).append (hypothesis others)

/-- A string is laid out like itself. -/
theorem string
    {body : List Char}
    (stays : StaysInside body) :
    LaidOut before before ('"' :: (body ++ ['"'])) ('"' :: (body ++ ['"'])) := by
  have opens : (Scan.mk .outside before).step '"' = ⟨.inside, before⟩ :=
    rfl
  have leaves : (Scan.mk .outside before).after ('"' :: (body ++ ['"'])) = ⟨.outside, before⟩ := by
    rw [Scan.after, List.foldl_cons, opens, ← Scan.after, Scan.after_append, stays.after]
    rfl
  exact {
    leaves := leaves
    leavesCompact := leaves
    stripped := by
      rw [Scan.withoutSpace, opens, Scan.withoutSpace_append, stays.after, stays.withoutSpace]
      simp [Scan.withoutSpace]
    dense := by
      have outside :
          (Scan.mk .outside before).outsideStrings ('"' :: (body ++ ['"'])) = ['"'] := by
        rw [Scan.outsideStrings, opens, Scan.outsideStrings_append, stays.after,
          stays.outsideStrings]
        rfl
      rw [outside]
      exact List.forall_mem_singleton.mpr rfl
    lines :=
      indentsLines_of_notMem (by simpa using stays.notMem)
  }

/-- A space stands for nothing. -/
theorem space :
    LaidOut before before [' '] [] where
  leaves := rfl
  leavesCompact := rfl
  stripped := rfl
  dense := List.forall_mem_nil _
  lines := indentsLines_of_notMem (by decide)

/-- Spaces stand for nothing. -/
theorem spaces
    (count : Nat) :
    LaidOut before before (List.replicate count ' ') [] := by
  induction count with
  | zero => exact nil
  | succ count hypothesis =>
      rw [List.replicate_succ]
      exact space.append hypothesis

/-- A line break stands for nothing in front of text that it indents. -/
theorem lineBreak
    {depth : Nat}
    {first : Char}
    {rest : List Char}
    (laidOut : LaidOut before after (first :: rest) compact)
    (visible : isWhiteSpace first = false)
    (opened : before = depth + if isClosing first then 1 else 0) :
    LaidOut before after ('\n' :: (List.replicate (2 * depth) ' ' ++ first :: rest)) compact := by
  have gap : LaidOut before before (List.replicate (2 * depth) ' ') [] :=
    spaces (2 * depth)
  have line := gap.append laidOut
  have step : (Scan.mk .outside before).step '\n' = ⟨.outside, before⟩ :=
    rfl
  have indentation : depth = before - if isClosing first then 1 else 0 := by
    omega
  exact {
    leaves := line.leaves
    leavesCompact := line.leavesCompact
    stripped := line.stripped
    dense := line.dense
    lines := by
      refine .cons ⟨first, rest, ?_, visible⟩ line.lines
      rw [← indentation]
  }

end LaidOut

end InitializerJson.JsonText
