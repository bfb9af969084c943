import InitializerJson.Proofs.Lexical.WordLexeme
import Mathlib.Data.List.Forall2

namespace InitializerJson.Lexical

open Character

/-!
# Framed texts

Raw text over several lines stands in a frame: the line break behind the opening
quotes, the indentation in front of every line, and a last line of that indentation
alone in front of the closing quotes.  Such text is read as its lines, with the line
ends between them as they are written.  Blank lines need no indentation, and fewer
quotes than those of the frame may stand anywhere.
-/

/-! ## Places of a mark and of separators -/

section Marks

variable
  {α : Type}
  [DecidableEq α]

/--
A mark stands first where it is put, if it neither occurs before nor can begin with
what stands right before.
-/
theorem splitAtMark?_of_not_infix
    {mark front : List α}
    (rest : List α)
    (filled : mark ≠ [])
    (absent : ¬ mark <:+: front)
    (apart : ∀ last ∈ front.getLast?, last ∉ mark) :
    splitAtMark? mark (front ++ (mark ++ rest)) = some (front, rest) := by
  apply splitAtMark?_of_first rest filled
  rintro ⟨before, behind, shape⟩
  have positive := List.length_pos_iff.mpr filled
  rcases List.append_eq_append_iff.mp shape with ⟨more, inFront, _⟩ | ⟨more, across, ending⟩
  · exact absent ⟨before, more, inFront.symm⟩
  · have fewer : more.length < mark.length := by
      have length := congrArg List.length ending
      simp only [List.length_append, List.length_dropLast] at length
      omega
    -- What is not in front of the end of `front` has the last item of `front` in it.
    rcases List.append_eq_append_iff.mp across with ⟨common, inFront, inMark⟩ | ⟨common, _, longer⟩
    · have someCommon : common ≠ [] := by
        rintro rfl
        rw [inMark] at fewer
        exact Nat.lt_irrefl _ fewer
      have last : common.getLast someCommon ∈ front.getLast? := by
        rw [inFront, List.getLast?_append_of_ne_nil _ someCommon, Option.mem_def,
          List.getLast?_eq_some_getLast]
      apply apart _ last
      rw [inMark]
      exact List.mem_append_left more (List.getLast_mem someCommon)
    · have length := congrArg List.length longer
      simp only [List.length_append] at length
      omega

/-- A list without the separator is one part. -/
theorem splitAtEach_of_notMem
    {separator : α}
    {part : List α}
    (absent : separator ∉ part) :
    splitAtEach separator part = [part] := by
  induction part with
  | nil => rfl
  | cons item part hypothesis =>
      rw [List.mem_cons, not_or] at absent
      rw [splitAtEach, if_neg (Ne.symm absent.1), hypothesis absent.2]

/-- A part goes up to the first separator. -/
theorem splitAtEach_append_cons
    {separator : α}
    {part : List α}
    (absent : separator ∉ part)
    (rest : List α) :
    splitAtEach separator (part ++ separator :: rest) = part :: splitAtEach separator rest := by
  induction part with
  | nil => rw [List.nil_append, splitAtEach, if_pos rfl]
  | cons item part hypothesis =>
      rw [List.mem_cons, not_or] at absent
      rw [List.cons_append, splitAtEach, if_neg (Ne.symm absent.1), hypothesis absent.2]

/-- There is one part at least. -/
theorem splitAtEach_ne_nil
    (separator : α)
    (items : List α) :
    splitAtEach separator items ≠ [] := by
  cases items with
  | nil => exact List.cons_ne_nil _ _
  | cons item items =>
      rw [splitAtEach]
      split
      · exact List.cons_ne_nil _ _
      · split <;> exact List.cons_ne_nil _ _

end Marks

/-! ## Raw text -/

/-- Raw text with some quotes is read up to the first place where as many stand again. -/
theorem rawText?_replicate
    {body : List Char}
    (count : Nat)
    (ends : body.head? ≠ some '"') :
    rawText? (List.replicate count '"' ++ body) =
      if 3 ≤ count then
        (splitAtMark? (List.replicate count '"') body).map fun parts => (rawValue parts.1, parts.2)
      else
        none := by
  have run : (List.replicate count '"' ++ body).takeWhile (· == '"') =
      List.replicate count '"' := by
    apply takeWhile_append_of_endsRun
    · intro character member
      rw [List.eq_of_mem_replicate member]
      rfl
    · intro next first
      refine beq_eq_false_iff_ne.mpr ?_
      rintro rfl
      exact ends first
  have length : (List.replicate count '"').length = count := by
    simp
  simp only [rawText?, run, length]
  rw [List.drop_left' length]

/-! ## Frames -/

/-- The line ends that a text is written with. -/
inductive LineEnding where
  | lineFeed
  | returnAndLineFeed
  deriving Repr, DecidableEq

namespace LineEnding

/-- What stands before the line feed. -/
def lead : LineEnding → List Char
  | lineFeed => []
  | returnAndLineFeed => ['\r']

/-- The characters of a line end. -/
def text
    (ending : LineEnding) :
    List Char :=
  ending.lead ++ ['\n']

/-- There is one line feed in a line end. -/
theorem notMem_lead
    (ending : LineEnding) :
    '\n' ∉ ending.lead := by
  cases ending <;> decide

end LineEnding

/-- The frame of raw text over several lines. -/
structure Frame where
  /-- The number of quotes on either side. -/
  count : Nat
  enough : 3 ≤ count
  ending : LineEnding
  indentation : List Char
  blanks : ∀ character ∈ indentation, character = ' ' ∨ character = '\t'

/-- A line as written in front of its end: indented, or left empty when nothing is on it. -/
inductive Frame.WritesLine
    (frame : Frame) :
    List Char → List Char → Prop where
  | indented
      (line : List Char) :
      frame.WritesLine line (frame.indentation ++ line)
  | blank :
      frame.WritesLine [] []

namespace Frame

variable
  (frame : Frame)

/-- The quotes on either side. -/
def quotes : List Char :=
  List.replicate frame.count '"'

/-- What stands between the quotes, when the lines are written like this. -/
def content
    (written : List (List Char)) :
    List Char :=
  frame.ending.text ++
    (written.flatMap (fun line => line ++ frame.ending.text) ++ frame.indentation)

/-- The whole literal. -/
def literal
    (written : List (List Char)) :
    List Char :=
  frame.quotes ++ (frame.content written ++ frame.quotes)

/-- The text of some lines. -/
def value
    (lines : List (List Char)) :
    List Char :=
  frame.ending.text.intercalate lines

/-- The indentation is white space. -/
theorem isWhiteSpace_of_mem
    {character : Char}
    (member : character ∈ frame.indentation) :
    isWhiteSpace character = true := by
  rcases frame.blanks character member with rfl | rfl <;> decide

/-- No quote and no line end is in the indentation. -/
theorem notMem_indentation :
    '"' ∉ frame.indentation ∧ '\r' ∉ frame.indentation ∧ '\n' ∉ frame.indentation := by
  refine ⟨?_, ?_, ?_⟩ <;>
    exact fun member => absurd (frame.blanks _ member) (by decide)

variable
  {frame}

/-- A line as written has no more line ends than the line. -/
theorem WritesLine.notMem
    {line written : List Char}
    (writes : frame.WritesLine line written)
    (unbroken : '\r' ∉ line ∧ '\n' ∉ line) :
    '\r' ∉ written ∧ '\n' ∉ written := by
  obtain ⟨_, noReturn, noFeed⟩ := frame.notMem_indentation
  cases writes with
  | indented =>
      rw [List.mem_append, List.mem_append, not_or, not_or]
      exact ⟨⟨noReturn, unbroken.1⟩, noFeed, unbroken.2⟩
  | blank => exact unbroken

/-- A line loses its indentation, and keeps what stands before its line feed. -/
theorem WritesLine.withoutIndentation_append
    {line written : List Char}
    (writes : frame.WritesLine line written)
    {lead : List Char}
    (apart : ∀ character ∈ lead, character ∉ frame.indentation) :
    withoutIndentation frame.indentation (written ++ lead) = line ++ lead := by
  cases writes with
  | indented =>
      have passed : afterMark? frame.indentation (frame.indentation ++ (line ++ lead)) =
          some (line ++ lead) :=
        afterMark?_eq_some_iff.mpr rfl
      rw [List.append_assoc, withoutIndentation, passed, Option.getD_some]
  | blank =>
      rw [List.nil_append, withoutIndentation]
      cases found : afterMark? frame.indentation lead with
      | none => rfl
      | some behind =>
          have shape := afterMark?_eq_some_iff.mp found
          -- Only an empty indentation can stand in front of a line end.
          have empty : frame.indentation = [] := by
            refine List.eq_nil_iff_forall_not_mem.mpr fun character member => ?_
            refine apart character ?_ member
            rw [shape]
            exact List.mem_append_left behind member
          rw [shape, empty, List.nil_append, Option.getD_some]

/-! ## The value between the quotes -/

/-- Lines with their ends are the lines joined, and one more end. -/
theorem flatMap_eq_intercalate
    (ending : List Char)
    {lines : List (List Char)}
    (filled : lines ≠ []) :
    lines.flatMap (fun line => line ++ ending) = ending.intercalate lines ++ ending := by
  induction lines with
  | nil => exact absurd rfl filled
  | cons line lines hypothesis =>
      cases lines with
      | nil => simp
      | cons next others =>
          rw [List.flatMap_cons, hypothesis (List.cons_ne_nil next others),
            List.intercalate_cons_of_ne_nil (List.cons_ne_nil next others)]
          simp only [List.append_assoc]

/-- The last line feed and the blanks behind it are taken off. -/
theorem withoutLastLine_append
    {blanks : List Char}
    (front : List Char)
    (areWhite : ∀ character ∈ blanks, isWhiteSpace character = true)
    (unbroken : '\n' ∉ blanks) :
    withoutLastLine (front ++ '\n' :: blanks) = (front, blanks) := by
  have inLine : ∀ character ∈ blanks.reverse, (character != '\n') = true := by
    intro character member
    rw [bne_iff_ne]
    rintro rfl
    exact unbroken (List.mem_reverse.mp member)
  have last : (front ++ '\n' :: blanks).reverse.takeWhile (· != '\n') = blanks.reverse := by
    rw [List.reverse_append, List.reverse_cons, List.append_assoc]
    exact takeWhile_append_of_endsRun inLine (endsRun_cons rfl)
  have length :
      (front ++ '\n' :: blanks).length - blanks.length - 1 = front.length := by
    rw [List.length_append, List.length_cons]
    omega
  simp only [withoutLastLine, last, List.reverse_reverse, length, List.take_left]
  rw [if_pos]
  simpa using areWhite

/-- What stands before the last line feed is taken off. -/
theorem withoutTrailingReturn_append
    {text : List Char}
    (ending : LineEnding)
    (notReturned : ending = .lineFeed → '\r' ∉ text) :
    withoutTrailingReturn (text ++ ending.lead) = text := by
  cases ending with
  | lineFeed =>
      have apart : text.getLast? ≠ some '\r' :=
        fun last => notReturned rfl (List.mem_of_getLast? last)
      rw [LineEnding.lead, List.append_nil, withoutTrailingReturn, if_neg apart]
  | returnAndLineFeed =>
      rw [LineEnding.lead, withoutTrailingReturn, if_pos List.getLast?_concat,
        List.dropLast_concat]

section Lines

variable
  {lines written : List (List Char)}
  (writes : List.Forall₂ frame.WritesLine lines written)
  (filled : lines ≠ [])
  (unbroken : ∀ line ∈ lines, '\r' ∉ line ∧ '\n' ∉ line)

include writes

include unbroken in
/-- Lines as written have no line ends of their own. -/
theorem notMem_of_mem_written :
    ∀ line ∈ written, '\r' ∉ line ∧ '\n' ∉ line := by
  induction writes with
  | nil => exact List.forall_mem_nil _
  | cons first _ hypothesis =>
      obtain ⟨firstUnbroken, othersUnbroken⟩ := List.forall_mem_cons.mp unbroken
      exact List.forall_mem_cons.mpr ⟨first.notMem firstUnbroken, hypothesis othersUnbroken⟩

include filled

/-- Some line is written. -/
theorem written_ne_nil :
    written ≠ [] := by
  rintro rfl
  cases writes
  exact filled rfl

/-- The content is the joined lines between a line end and the one before the indentation. -/
theorem content_eq :
    frame.content written =
      frame.ending.text ++
        (frame.value written ++ frame.ending.lead ++ '\n' :: frame.indentation) := by
  rw [content, flatMap_eq_intercalate _ (written_ne_nil writes filled), value, LineEnding.text]
  simp only [List.append_assoc, List.cons_append, List.nil_append]

include unbroken

/-- Where lines end in a line feed alone, no carriage return is between them. -/
theorem return_notMem_value
    (single : frame.ending = .lineFeed) :
    '\r' ∉ frame.value written := by
  intro member
  have inLines : '\r' ∈ written.flatMap (fun line => line ++ frame.ending.text) := by
    rw [flatMap_eq_intercalate _ (written_ne_nil writes filled)]
    exact List.mem_append_left _ member
  obtain ⟨line, listed, inLine⟩ := List.mem_flatMap.mp inLines
  rcases List.mem_append.mp inLine with own | ending
  · exact (notMem_of_mem_written writes unbroken line listed).1 own
  · rw [single] at ending
    exact absurd ending (by decide)

/-- Lines that are taken apart and lose their indentation are the lines that were written. -/
theorem intercalate_withoutIndentation :
    ['\n'].intercalate
        ((splitAtEach '\n' (frame.value written)).map (withoutIndentation frame.indentation)) =
      frame.value lines := by
  have leadApart : ∀ character ∈ frame.ending.lead, character ∉ frame.indentation := by
    intro character member
    have isReturn : character = '\r' := by
      cases ending : frame.ending with
      | lineFeed =>
          rw [ending] at member
          cases member
      | returnAndLineFeed =>
          rw [ending] at member
          exact List.mem_singleton.mp member
    rw [isReturn]
    exact frame.notMem_indentation.2.1
  induction writes with
  | nil => exact absurd rfl filled
  | @cons line first lines written writesFirst writesOthers hypothesis =>
      obtain ⟨firstUnbroken, othersUnbroken⟩ := List.forall_mem_cons.mp unbroken
      have firstAlone := (writesFirst.notMem firstUnbroken).2
      cases writesOthers with
      | nil =>
          have last := writesFirst.withoutIndentation_append (List.forall_mem_nil _)
          rw [List.append_nil, List.append_nil] at last
          rw [value, value, List.intercalate_singleton, List.intercalate_singleton,
            splitAtEach_of_notMem firstAlone, List.map_singleton, List.intercalate_singleton, last]
      | @cons nextLine next lines written writesNext writesOthers =>
          have joined (first next : List Char) (others : List (List Char)) :
              frame.value (first :: next :: others) =
                first ++ frame.ending.lead ++ '\n' :: frame.value (next :: others) := by
            rw [value, List.intercalate_cons_of_ne_nil (List.cons_ne_nil next others), value,
              LineEnding.text]
            simp only [List.append_assoc, List.cons_append, List.nil_append]
          have whole : '\n' ∉ first ++ frame.ending.lead := by
            rw [List.mem_append, not_or]
            exact ⟨firstAlone, frame.ending.notMem_lead⟩
          have behind := hypothesis (List.cons_ne_nil _ _) othersUnbroken
          rw [joined, joined, splitAtEach_append_cons whole, List.map_cons,
            writesFirst.withoutIndentation_append leadApart,
            List.intercalate_cons_of_ne_nil (by simpa using splitAtEach_ne_nil _ _), behind]
          simp only [List.append_assoc, List.cons_append, List.nil_append]

/-- The content of a frame has the lines for its value. -/
theorem rawValue_content :
    rawValue (frame.content written) = frame.value lines := by
  have leading (rest : List Char) : withoutLeadingBreak (frame.ending.text ++ rest) = rest := by
    cases frame.ending <;> rfl
  have broken : (frame.content written).contains '\n' = true := by
    rw [content_eq writes filled]
    simp
  rw [rawValue, if_pos broken, content_eq writes filled, leading,
    withoutLastLine_append _ (fun _ member => frame.isWhiteSpace_of_mem member)
      frame.notMem_indentation.2.2]
  simp only
  rw [withoutTrailingReturn_append frame.ending (return_notMem_value writes filled unbroken),
    intercalate_withoutIndentation writes filled unbroken]

/-- Framed lines are read from the quotes to the quotes, whatever follows. -/
theorem rawText?_literal
    (fewQuotes : ¬ frame.quotes <:+: frame.content written)
    (rest : List Char) :
    rawText? (frame.literal written ++ rest) = some (frame.value lines, rest) := by
  have someQuotes : frame.quotes ≠ [] := by
    simpa [quotes] using Nat.ne_of_gt (Nat.lt_of_lt_of_le (by decide) frame.enough)
  have opening : (frame.content written ++ (frame.quotes ++ rest)).head? ≠ some '"' := by
    rw [content_eq writes filled]
    cases frame.ending <;> exact fun first => absurd (Option.some.inj first) (by decide)
  have closing : ∀ last ∈ (frame.content written).getLast?, last ∉ frame.quotes := by
    intro last isLast inQuotes
    rw [content_eq writes filled, ← List.append_assoc,
      List.getLast?_append_of_ne_nil _ (List.cons_ne_nil _ _)] at isLast
    rw [List.eq_of_mem_replicate inQuotes] at isLast
    rcases List.mem_cons.mp (List.mem_of_getLast? isLast) with feed | blank
    · exact absurd feed (by decide)
    · exact frame.notMem_indentation.1 blank
  have split : splitAtMark? (List.replicate frame.count '"')
      (frame.content written ++ (frame.quotes ++ rest)) = some (frame.content written, rest) :=
    splitAtMark?_of_not_infix rest someQuotes fewQuotes closing
  have shape : frame.literal written ++ rest =
      List.replicate frame.count '"' ++ (frame.content written ++ (frame.quotes ++ rest)) := by
    simp only [literal, quotes, List.append_assoc]
  rw [shape, rawText?_replicate _ opening, if_pos frame.enough, split, Option.map_some,
    rawValue_content writes filled unbroken]

/-- Framed lines are a literal of their text. -/
theorem isLexeme_literal
    (fewQuotes : ¬ frame.quotes <:+: frame.content written)
    (rest : List Char) :
    IsLexeme (.string (String.ofList (frame.value lines))) (frame.literal written) rest := by
  have read := rawText?_literal writes filled unbroken fewQuotes rest
  obtain ⟨fewer, count⟩ : ∃ fewer, frame.count = fewer + 1 :=
    Nat.exists_eq_add_one_of_ne_zero (Nat.ne_of_gt (Nat.lt_of_lt_of_le (by decide) frame.enough))
  have shape : frame.literal written =
      '"' :: (List.replicate fewer '"' ++ (frame.content written ++ frame.quotes)) := by
    rw [literal, quotes, count, List.replicate_succ, List.cons_append]
  rw [shape] at read ⊢
  apply isLexeme_of_readKind? (by decide) (by decide) (by decide)
  rw [readKind?, read]
  rfl

end Lines

end Frame

/--
Lines between quotes are read as the first token of a source, with nothing of their
frame, and the span of the token is the whole literal.
-/
theorem tokenize_framedText
    {frame : Frame}
    {lines written : List (List Char)}
    {rest : List Char}
    {source : String}
    {tokens : List Token}
    (filled : lines ≠ [])
    (unbroken : ∀ line ∈ lines, '\r' ∉ line ∧ '\n' ∉ line)
    (writes : List.Forall₂ frame.WritesLine lines written)
    (fewQuotes : ¬ frame.quotes <:+: frame.content written)
    (begins : source.toList = frame.literal written ++ rest)
    (tokenized : tokenize source = .ok tokens) :
    ∃ first others,
      placeTokens tokens = first :: others ∧
        first.token.kind = .string (String.ofList (frame.value lines)) ∧
        first.token.lexeme = frame.literal written ∧
        first.offset = 0 ∧
        first.endOffset = byteLength (frame.literal written) :=
  exists_first_of_isLexeme (Frame.isLexeme_literal writes filled unbroken fewQuotes rest)
    begins tokenized

/-- Three quotes, two spaces in front of the lines, and line ends of two characters. -/
def twoSpaces : Frame where
  count := 3
  enough := Nat.le_refl 3
  ending := .returnAndLineFeed
  indentation := [' ', ' ']
  blanks := by simp

/-- The second line has nothing on it, and the third begins with blanks of its own. -/
def threeLines : List (List Char) :=
  ["a \"\"b".toList, [], "  c".toList]

/-- Three lines as they stand in the frame. -/
def threeLinesWritten : List (List Char) :=
  ["  a \"\"b".toList, [], "    c".toList]

/-- The tokens of three framed lines and a semicolon. -/
def threeLinesTokens : List Token :=
  [
    ⟨.string "a \"\"b\r\n\r\n  c", [], twoSpaces.literal threeLinesWritten⟩,
    ⟨.punctuator .semicolon, [], [';']⟩
  ]

/-- Three framed lines keep two quotes, the empty line and their own blanks. -/
theorem tokenize_framedText_threeLines :
    tokenize "\"\"\"\r\n  a \"\"b\r\n\r\n    c\r\n  \"\"\";" = .ok threeLinesTokens ∧
      ∃ first others,
        placeTokens threeLinesTokens = first :: others ∧
          first.token.kind = .string (String.ofList (twoSpaces.value threeLines)) ∧
          first.token.lexeme = twoSpaces.literal threeLinesWritten ∧
          first.offset = 0 ∧
          first.endOffset = byteLength (twoSpaces.literal threeLinesWritten) := by
  have tokenized :
      tokenize "\"\"\"\r\n  a \"\"b\r\n\r\n    c\r\n  \"\"\";" = .ok threeLinesTokens :=
    tokenize_eq_ok_iff.mpr (by decide +kernel)
  have unbroken : ∀ line ∈ threeLines, '\r' ∉ line ∧ '\n' ∉ line := by
    decide
  have writes : List.Forall₂ twoSpaces.WritesLine threeLines threeLinesWritten :=
    .cons (.indented _) (.cons .blank (.cons (.indented _) .nil))
  have fewQuotes : ¬ twoSpaces.quotes <:+: twoSpaces.content threeLinesWritten := by
    decide +kernel
  have begins :
      "\"\"\"\r\n  a \"\"b\r\n\r\n    c\r\n  \"\"\";".toList =
        twoSpaces.literal threeLinesWritten ++ [';'] := by
    rfl
  exact ⟨tokenized,
    tokenize_framedText (List.cons_ne_nil _ _) unbroken writes fewQuotes begins tokenized⟩

end InitializerJson.Lexical
