import InitializerJson.Proofs.Json.Scanning
import InitializerJson.Proofs.Value.Rendering

namespace InitializerJson

open JsonText Character

/-!
# The two layouts of a value

Indented and compact text of one value are laid out alike: without the spaces and
line breaks outside its strings, the indented text is the compact one, which has no
white space there at all.  The lines of the indented text begin with two spaces for
each open container.
-/

/-! ## Plain texts -/

namespace JsonText

/-- A digit is a plain mark. -/
theorem isPlainMark_of_isDigit
    {digit : Char}
    (isDigit : digit.isDigit = true) :
    isPlainMark digit = true := by
  have apart (mark : Char) (outside : mark.isDigit = false) : digit ≠ mark :=
    ne_of_class isDigit outside
  have visible : isWhiteSpace digit = false :=
    (Bool.or_eq_false_iff.mp (isBlank_of_isDigit isDigit)).1
  simp [isPlainMark, isOpening, isClosing, visible, apart '"' rfl, apart '[' rfl, apart ']' rfl,
    apart '\x7b' rfl, apart '\x7d' rfl]

/-- A number is written in plain marks. -/
theorem NumberText.isPlainMark
    {text : List Char}
    {number : Number}
    (written : NumberText text number) :
    ∀ character ∈ text, isPlainMark character = true := by
  have digits {run : List Char} (areDigits : ∀ digit ∈ run, digit.isDigit = true) :
      ∀ digit ∈ run, JsonText.isPlainMark digit = true :=
    fun digit member => isPlainMark_of_isDigit (areDigits digit member)
  have sign (negative : Bool) : ∀ mark ∈ signText negative, JsonText.isPlainMark mark = true := by
    cases negative <;> exact List.all_eq_true.mp (by decide)
  cases written with
  | integer whole =>
      exact List.forall_mem_append.mpr ⟨sign _, digits whole.isDigit⟩
  | real whole fraction exponent =>
      refine List.forall_mem_append.mpr ⟨sign _, List.forall_mem_append.mpr
        ⟨digits whole.isDigit, List.forall_mem_append.mpr ⟨?_, ?_⟩⟩⟩
      · cases fraction with
        | absent => exact List.forall_mem_nil _
        | present _ areDigits => exact List.forall_mem_cons.mpr ⟨rfl, digits areDigits⟩
      · cases exponent with
        | absent => exact List.forall_mem_nil _
        | present mark exponentSign _ areDigits =>
            refine List.forall_mem_cons.mpr ⟨?_, List.forall_mem_append.mpr
              ⟨?_, digits areDigits⟩⟩
            · rcases mark with rfl | rfl <;> rfl
            · rcases exponentSign with rfl | rfl | rfl <;> exact List.all_eq_true.mp (by decide)

end JsonText

/-! ## Containers -/

namespace JsonText

/-- A text that begins with a visible character other than a closing bracket. -/
def BeginsPart
    (text : List Char) :
    Prop :=
  ∃ first rest, text = first :: rest ∧ isWhiteSpace first = false ∧ isClosing first = false

/-- A part of a container as it is written in either layout. -/
structure WrittenPart where
  indented : List Char
  compact : List Char

namespace WrittenPart

/-- A part is laid out alike in both layouts, inside some open containers. -/
structure LaidOutIn
    (part : WrittenPart)
    (opened : Nat) :
    Prop where
  begins : BeginsPart part.indented
  laidOut : LaidOut opened opened part.indented part.compact

/-- A part is laid out alike behind its line break. -/
theorem LaidOutIn.behindBreak
    {part : WrittenPart}
    {opened : Nat}
    (inside : part.LaidOutIn opened)
    (other : Nat) :
    LaidOut opened opened
      (Layout.indented.lineBreak opened ++ part.indented)
      (Layout.compact.lineBreak other ++ part.compact) := by
  obtain ⟨first, rest, shape, visible, notClosing⟩ := inside.begins
  have laidOut := inside.laidOut
  rw [shape] at laidOut ⊢
  exact laidOut.lineBreak visible (by simp [notClosing])

/-- Parts with commas between them are laid out alike. -/
theorem laidOut_separated
    {opened : Nat}
    (other : Nat)
    {parts : List WrittenPart}
    (inside : ∀ part ∈ parts, part.LaidOutIn opened) :
    LaidOut opened opened
      (Layout.indented.separated opened (parts.map indented))
      (Layout.compact.separated other (parts.map compact)) := by
  simp only [Layout.separated, List.map_map]
  induction parts with
  | nil => exact .nil
  | cons first others hypothesis =>
      obtain ⟨firstInside, othersInside⟩ := List.forall_mem_cons.mp inside
      have behind := hypothesis othersInside
      cases others with
      | nil =>
          rw [List.map_singleton, List.map_singleton, List.intercalate_singleton,
            List.intercalate_singleton]
          exact firstInside.behindBreak other
      | cons second others =>
          have shape (view : WrittenPart → List Char) :
              [','].intercalate ((first :: second :: others).map view) =
                view first ++ ([','] ++ [','].intercalate ((second :: others).map view)) := by
            simp
          have comma : LaidOut opened opened [','] [','] :=
            .mark (by decide)
          rw [shape, shape]
          exact (firstInside.behindBreak other).append (comma.append behind)

/-- A container is laid out alike when its parts are. -/
theorem laidOut_enclose
    {depth : Nat}
    (other : Nat)
    (opening closing : Char)
    (opens : (Scan.mk .outside depth).step opening = ⟨.outside, depth + 1⟩)
    (closes : (Scan.mk .outside (depth + 1)).step closing = ⟨.outside, depth⟩)
    (openingVisible : isWhiteSpace opening = false)
    (closingVisible : isWhiteSpace closing = false)
    (isClosing : isClosing closing = true)
    {parts : List WrittenPart}
    (inside : ∀ part ∈ parts, part.LaidOutIn (depth + 1)) :
    LaidOut depth depth
      (Layout.indented.enclose depth opening closing (parts.map indented))
      (Layout.compact.enclose other opening closing (parts.map compact)) := by
  have openMark : LaidOut depth (depth + 1) [opening] [opening] :=
    .single opens openingVisible
  have closeMark : LaidOut (depth + 1) depth [closing] [closing] :=
    .single closes closingVisible
  cases parts with
  | nil => exact openMark.append closeMark
  | cons first others =>
      have separated := laidOut_separated (other + 1) inside
      have closeLine :
          LaidOut (depth + 1) depth
            ('\n' :: (List.replicate (2 * depth) ' ' ++ [closing])) [closing] :=
        closeMark.lineBreak closingVisible (by simp [isClosing])
      have whole := (openMark.append separated).append closeLine
      simpa [Layout.enclose, Layout.lineBreak] using whole

end WrittenPart

end JsonText

/-! ## Values -/

namespace Value

/-- Every real number in a value has a JSON number for its text. -/
inductive HasNumberTexts : Value → Prop where
  | null :
      HasNumberTexts .null
  | bool
      {truth : Bool} :
      HasNumberTexts (.bool truth)
  | integer
      {value : Int} :
      HasNumberTexts (.number (.integer value))
  | real
      {text : String}
      {number : Number}
      (written : NumberText text.toList number) :
      HasNumberTexts (.number (.real text))
  | string
      {text : String} :
      HasNumberTexts (.string text)
  | list
      {items : List Value}
      (each : ∀ item ∈ items, item.HasNumberTexts) :
      HasNumberTexts (.list items)
  | object
      {members : List (String × Value)}
      (each : ∀ member ∈ members, member.2.HasNumberTexts) :
      HasNumberTexts (.object members)

/-- The text of a number in such a value is a JSON number. -/
theorem HasNumberTexts.exists_numberText
    {number : Number}
    (texts : (Value.number number).HasNumberTexts) :
    ∃ known, NumberText number.text.toList known := by
  cases texts with
  | integer => exact ⟨_, numberText_integer _⟩
  | real written => exact ⟨_, written⟩

/-- The text of a value begins with a visible character other than a closing bracket. -/
theorem beginsPart_write
    (layout : Layout)
    (depth : Nat)
    {value : Value}
    (texts : value.HasNumberTexts) :
    BeginsPart (value.write layout depth) := by
  have container (opening closing : Char) (items : List (List Char)) :
      ∃ rest, layout.enclose depth opening closing items = opening :: rest := by
    rw [Layout.enclose]
    split
    · exact ⟨_, rfl⟩
    · exact ⟨_, rfl⟩
  cases value with
  | null => exact ⟨'n', _, rfl, rfl, rfl⟩
  | bool truth =>
      cases truth with
      | true => exact ⟨'t', _, rfl, rfl, rfl⟩
      | false => exact ⟨'f', _, rfl, rfl, rfl⟩
  | number number =>
      obtain ⟨known, written⟩ := texts.exists_numberText
      obtain ⟨first, rest, shape, _⟩ := written.exists_first
      have plain : isPlainMark first = true :=
        written.isPlainMark first (shape ▸ List.mem_cons_self)
      simp only [isPlainMark, Bool.and_eq_true, Bool.not_eq_true'] at plain
      exact ⟨first, rest, shape, plain.2, plain.1.2⟩
  | string text => exact ⟨'"', _, rfl, rfl, rfl⟩
  | list items =>
      obtain ⟨rest, shape⟩ := container '[' ']' (writeItems layout (depth + 1) items)
      exact ⟨'[', rest, shape, rfl, rfl⟩
  | object members =>
      obtain ⟨rest, shape⟩ := container '\x7b' '\x7d' (writeMembers layout (depth + 1) members)
      exact ⟨'\x7b', rest, shape, rfl, rfl⟩

/-- A quoted text is laid out like itself. -/
theorem laidOut_quote
    (opened : Nat)
    (text : String) :
    LaidOut opened opened (quote text) (quote text) :=
  .string (bodyText_escapeCharacters text.toList).staysInside

/-- A word of plain marks is laid out like itself. -/
theorem laidOut_word
    (opened : Nat)
    (letters : List Char)
    (plain : letters.all isPlainMark = true) :
    LaidOut opened opened letters letters :=
  .marks (List.all_eq_true.mp plain)

/-- A value as a part of a container, written in both layouts. -/
def writtenItem
    (depth other : Nat)
    (item : Value) :
    WrittenPart where
  indented :=
    item.write .indented depth
  compact :=
    item.write .compact other

/-- A member as a part of an object, written in both layouts. -/
def writtenMember
    (depth other : Nat)
    (member : String × Value) :
    WrittenPart where
  indented :=
    Layout.indented.member member.1 (member.2.write .indented depth)
  compact :=
    Layout.compact.member member.1 (member.2.write .compact other)

/-- A member is laid out alike when its value is. -/
theorem laidOutIn_writtenMember
    {depth other : Nat}
    {member : String × Value}
    (laidOut :
      LaidOut depth depth (member.2.write .indented depth) (member.2.write .compact other)) :
    (writtenMember depth other member).LaidOutIn depth where
  begins := ⟨'"', _, rfl, rfl, rfl⟩
  laidOut := by
    have colon : LaidOut depth depth [':'] [':'] :=
      .mark (by decide)
    have gap : LaidOut depth depth [' '] [] :=
      .space
    exact ((laidOut_quote depth member.1).append (colon.append gap)).append laidOut

/-- A value is laid out alike in both layouts. -/
theorem laidOut_write
    {value : Value}
    (texts : value.HasNumberTexts)
    (depth other : Nat) :
    LaidOut depth depth (value.write .indented depth) (value.write .compact other) := by
  induction texts generalizing depth other with
  | null => exact laidOut_word depth ['n', 'u', 'l', 'l'] rfl
  | @bool truth =>
      cases truth with
      | true => exact laidOut_word depth ['t', 'r', 'u', 'e'] rfl
      | false => exact laidOut_word depth ['f', 'a', 'l', 's', 'e'] rfl
  | integer => exact .marks (numberText_integer _).isPlainMark
  | real written => exact .marks written.isPlainMark
  | string => exact laidOut_quote depth _
  | @list items each hypothesis =>
      have inside :
          ∀ part ∈ items.map (writtenItem (depth + 1) (other + 1)),
            part.LaidOutIn (depth + 1) :=
        List.forall_mem_map.mpr fun item member =>
          ⟨beginsPart_write .indented (depth + 1) (each item member), hypothesis item member _ _⟩
      have container := WrittenPart.laidOut_enclose other '[' ']'
        rfl rfl rfl rfl rfl inside
      rw [List.map_map, List.map_map] at container
      rw [write, write, writeItems_eq_map, writeItems_eq_map]
      exact container
  | @object members each hypothesis =>
      have inside :
          ∀ part ∈ members.map (writtenMember (depth + 1) (other + 1)),
            part.LaidOutIn (depth + 1) :=
        List.forall_mem_map.mpr fun member present =>
          laidOutIn_writtenMember (hypothesis member present _ _)
      have container := WrittenPart.laidOut_enclose other '\x7b' '\x7d'
        rfl rfl rfl rfl rfl inside
      rw [List.map_map, List.map_map] at container
      rw [write, write, writeMembers_eq_map, writeMembers_eq_map]
      exact container

/--
Without the spaces and line breaks outside its strings, indented text is the compact
text of the same value.  Compact text has no white space there, and every line of
indented text begins with two spaces for each open container.
-/
theorem layouts_differ_in_space
    {value : Value}
    (texts : value.HasNumberTexts) :
    Scan.start.withoutSpace (value.render .indented).toList = (value.render .compact).toList ∧
      (∀ character ∈ Scan.start.outsideStrings (value.render .compact).toList,
        isWhiteSpace character = false) ∧
      ∀ before line,
        (value.render .indented).toList = before ++ line →
        before = [] ∨ before.getLast? = some '\n' →
        IsIndented (Scan.start.after before).opened line := by
  have laidOut := laidOut_write texts 0 0
  simp only [render, String.toList_ofList]
  refine ⟨laidOut.stripped, laidOut.dense, ?_⟩
  rintro before line shape (rfl | ends)
  · obtain ⟨first, rest, begins, visible, _⟩ := beginsPart_write .indented 0 texts
    have outermost : (Scan.start.after []).opened = 0 :=
      rfl
    refine ⟨first, rest, ?_, visible⟩
    rw [outermost, Nat.zero_sub, Nat.mul_zero, List.replicate_zero, List.nil_append, ← begins]
    exact shape.symm
  · obtain ⟨front, rfl⟩ := List.getLast?_eq_some_iff.mp ends
    rw [List.append_assoc, List.singleton_append] at shape
    rw [Scan.after_append, Scan.opened_after_lineBreak]
    exact laidOut.lines front line shape

/-- An object with brackets and spaces in its strings, and with empty containers. -/
def noticeBoard : Value :=
  object
    [("a \"]", list [number (.real "2"), list [], string "\\ \n"]),
      ("", object [])]

/-- The real number on the notice board is written as a JSON number. -/
theorem hasNumberTexts_noticeBoard :
    noticeBoard.HasNumberTexts := by
  have digits : WholeText ['2'] :=
    .positive (by decide) (by decide) (List.forall_mem_nil _)
  have written : NumberText "2".toList (.integer (Decimal.signedValue false ['2'])) :=
    @NumberText.integer false ['2'] digits
  refine .object (List.forall_mem_cons.mpr ⟨.list ?_, List.forall_mem_singleton.mpr (.object ?_)⟩)
  · exact List.forall_mem_cons.mpr ⟨.real written, List.forall_mem_cons.mpr
      ⟨.list (List.forall_mem_nil _), List.forall_mem_singleton.mpr .string⟩⟩
  · exact List.forall_mem_nil _

/-- The two layouts of the notice board differ in space only. -/
theorem layouts_differ_in_space_noticeBoard :
    noticeBoard.HasNumberTexts ∧
      Scan.start.withoutSpace (noticeBoard.render .indented).toList =
        (noticeBoard.render .compact).toList ∧
      (∀ character ∈ Scan.start.outsideStrings (noticeBoard.render .compact).toList,
        isWhiteSpace character = false) ∧
      IsIndented 2 "    2,\n    [],\n    \"\\\\ \\n\"\n  ],\n  \"\": \x7b\x7d\n\x7d".toList := by
  obtain ⟨same, dense, lines⟩ := layouts_differ_in_space hasNumberTexts_noticeBoard
  refine ⟨hasNumberTexts_noticeBoard, same, dense, ?_⟩
  exact lines "\x7b\n  \"a \\\"]\": [\n".toList _ (by decide +kernel) (.inr (by decide +kernel))

end Value

end InitializerJson
