import InitializerJson.Json.Layout
import InitializerJson.Proofs.Json.Document

namespace InitializerJson

/-!
# Containers as a layout writes them

Written values in the brackets of a layout make up a container of the grammar.
The layout puts white space in front of every part and behind the last one, and
leaves the written values as they are.
-/

namespace JsonText

/-- White space without characters. -/
theorem isBlank_nil :
    IsBlank [] := by
  intro character member
  cases member

/-- A line break of a layout is white space. -/
theorem isBlank_lineBreak
    (layout : Layout)
    (depth : Nat) :
    IsBlank (layout.lineBreak depth) := by
  intro character member
  cases layout with
  | compact => cases member
  | indented =>
      simp only [Layout.lineBreak, List.mem_cons, List.mem_replicate] at member
      rcases member with rfl | ⟨_, rfl⟩ <;> decide

/-- The space between a member's colon and its value. -/
def afterColon : Layout → List Char
  | .indented => [' ']
  | .compact => []

/-- A member's name ends with its colon and the space behind it. -/
theorem nameEnd_eq
    (layout : Layout) :
    layout.nameEnd = ':' :: afterColon layout := by
  cases layout <;> rfl

/-- The space behind a colon is white space. -/
theorem isBlank_afterColon
    (layout : Layout) :
    IsBlank (afterColon layout) := by
  intro character member
  cases layout with
  | compact => cases member
  | indented =>
      cases List.mem_singleton.mp member
      decide

/-! ## White space between parts -/

/-- Parts of a container as written: only the last one has white space behind it. -/
def spread
    {α β : Type}
    (part : List Char → α → β)
    (after : List Char) :
    List α → List β
  | [] => []
  | [last] => [part after last]
  | first :: second :: others => part [] first :: spread part after (second :: others)

section Spread

variable
  {α β : Type}
  {part : List Char → α → β}

/-- Every part that is written comes from one that is given. -/
theorem exists_of_mem_spread
    {after : List Char}
    {parts : List α}
    {written : β}
    (member : written ∈ spread part after parts) :
    ∃ given ∈ parts, written = part after given ∨ written = part [] given := by
  fun_induction spread part after parts with
  | case1 => cases member
  | case2 last =>
      exact ⟨last, by simp, .inl (List.mem_singleton.mp member)⟩
  | case3 first second others hypothesis =>
      rcases List.mem_cons.mp member with rfl | later
      · exact ⟨first, by simp, .inr rfl⟩
      · obtain ⟨given, givenMember, shape⟩ := hypothesis later
        exact ⟨given, List.mem_cons_of_mem first givenMember, shape⟩

/-- What is viewed in the parts apart from white space is what they were written for. -/
theorem map_spread
    {view : β → α}
    (same : ∀ after given, view (part after given) = given)
    (after : List Char)
    (parts : List α) :
    (spread part after parts).map view = parts := by
  fun_induction spread part after parts with
  | case1 => rfl
  | case2 last => simp [same]
  | case3 first second others hypothesis =>
      rw [List.map_cons, same, hypothesis]

/-- Some part is written when some part is given. -/
theorem spread_ne_nil
    (part : List Char → α → β)
    (after : List Char)
    {parts : List α}
    (nonempty : parts ≠ []) :
    spread part after parts ≠ [] := by
  fun_cases spread part after parts with
  | case1 => exact absurd rfl nonempty
  | case2 last => exact List.cons_ne_nil _ _
  | case3 first second others => exact List.cons_ne_nil _ _

/-- The white space behind the last part stands behind all of them. -/
theorem intercalate_spread
    {text : β → List Char}
    {source : α → List Char}
    (writes : ∀ after given, text (part after given) = source given ++ after)
    (after : List Char)
    {parts : List α}
    (nonempty : parts ≠ []) :
    [','].intercalate ((spread part after parts).map text) =
      [','].intercalate (parts.map source) ++ after := by
  fun_induction spread part after parts with
  | case1 => exact absurd rfl nonempty
  | case2 last => simp [writes]
  | case3 first second others hypothesis =>
      have some_written : (spread part after (second :: others)).map text ≠ [] := by
        simpa using spread_ne_nil part after (List.cons_ne_nil second others)
      have later := hypothesis (by simp)
      rw [List.map_cons, List.map_cons, writes, List.append_nil,
        List.intercalate_cons_of_ne_nil some_written, later,
        List.intercalate_cons_of_ne_nil (by simp)]
      simp only [List.append_assoc]

/-- Written parts in brackets are the same parts with their white space in brackets. -/
theorem enclose_eq_spread
    {text : β → List Char}
    {source : α → List Char}
    {layout : Layout}
    {depth : Nat}
    (writes : ∀ after given,
      text (part after given) = layout.lineBreak (depth + 1) ++ source given ++ after)
    (opening closing : Char)
    {parts : List α}
    (nonempty : parts ≠ []) :
    layout.enclose depth opening closing (parts.map source) =
      opening :: ([','].intercalate
        ((spread part (layout.lineBreak depth) parts).map text) ++ [closing]) := by
  have filled : (parts.map source).isEmpty = false := by
    simpa using nonempty
  rw [intercalate_spread writes (layout.lineBreak depth) nonempty]
  simp [Layout.enclose, Layout.separated, filled, Function.comp_def]

end Spread

/-! ## Lists and objects -/

/-- A value as written, and the value that it stands for. -/
structure WrittenValue where
  text : List Char
  value : Value

/-- A written item as a layout places it, with what stands behind it. -/
def itemText
    (layout : Layout)
    (depth : Nat)
    (after : List Char)
    (item : WrittenValue) :
    ItemText where
  before := layout.lineBreak depth
  written := item.text
  after := after
  value := item.value

/-- A written member as a layout places it, with what stands behind it. -/
def memberText
    (layout : Layout)
    (depth : Nat)
    (after : List Char)
    (member : String × WrittenValue) :
    MemberText where
  before := layout.lineBreak depth
  body := member.1.toList.flatMap escapeCharacter
  name := member.1.toList
  beforeColon := []
  item := ⟨afterColon layout, member.2.text, after, member.2.value⟩

/-- The written value of an item apart from white space. -/
def ItemText.writtenValue
    (item : ItemText) :
    WrittenValue :=
  ⟨item.written, item.value⟩

/-- The name and written value of a member apart from white space. -/
def MemberText.writtenEntry
    (member : MemberText) :
    String × WrittenValue :=
  (String.ofList member.name, member.item.writtenValue)

/-- A text is a list of the grammar with given written items. -/
structure IsListOf
    (items : List ItemText)
    (written : List WrittenValue)
    (text : List Char) :
    Prop where
  nonempty : items ≠ []
  spaced : ∀ item ∈ items, item.Spaced
  written : items.map ItemText.writtenValue = written
  text : text = '[' :: ([','].intercalate (items.map ItemText.text) ++ [']'])

/-- A text is an object of the grammar with given names and written values. -/
structure IsObjectOf
    (members : List MemberText)
    (written : List (String × WrittenValue))
    (text : List Char) :
    Prop where
  nonempty : members ≠ []
  spaced : ∀ member ∈ members, member.Spaced
  written : members.map MemberText.writtenEntry = written
  text : text = '{' :: ([','].intercalate (members.map MemberText.text) ++ ['}'])

/-- Written items in the brackets of a layout are a list of these items. -/
theorem exists_isListOf_enclose
    (layout : Layout)
    (depth : Nat)
    {items : List WrittenValue}
    (nonempty : items ≠ []) :
    ∃ texts, IsListOf texts items
      (layout.enclose depth '[' ']' (items.map WrittenValue.text)) := by
  have writes : ∀ after (item : WrittenValue),
      (itemText layout (depth + 1) after item).text =
        layout.lineBreak (depth + 1) ++ item.text ++ after :=
    fun _ _ => (List.append_assoc _ _ _).symm
  refine ⟨spread (itemText layout (depth + 1)) (layout.lineBreak depth) items,
    spread_ne_nil _ _ nonempty, ?_, map_spread (fun _ _ => rfl) _ _,
    enclose_eq_spread writes _ _ nonempty⟩
  intro item member
  obtain ⟨given, _, rfl | rfl⟩ := exists_of_mem_spread member
  · exact ⟨isBlank_lineBreak layout _, isBlank_lineBreak layout _⟩
  · exact ⟨isBlank_lineBreak layout _, isBlank_nil⟩

/-- Written members in the brackets of a layout are an object of these members. -/
theorem exists_isObjectOf_enclose
    (layout : Layout)
    (depth : Nat)
    {members : List (String × WrittenValue)}
    (nonempty : members ≠ []) :
    ∃ texts, IsObjectOf texts members
      (layout.enclose depth '{' '}'
        (members.map fun member => layout.member member.1 member.2.text)) := by
  have writes : ∀ after (member : String × WrittenValue),
      (memberText layout (depth + 1) after member).text =
        layout.lineBreak (depth + 1) ++ layout.member member.1 member.2.text ++ after := by
    intro after member
    simp [MemberText.text, memberText, ItemText.text, Layout.member, quote, nameEnd_eq]
  have views : ∀ after (member : String × WrittenValue),
      (memberText layout (depth + 1) after member).writtenEntry = member := by
    intro after member
    simp [MemberText.writtenEntry, ItemText.writtenValue, memberText, String.ofList_toList]
  refine ⟨spread (memberText layout (depth + 1)) (layout.lineBreak depth) members,
    spread_ne_nil _ _ nonempty, ?_, map_spread views _ _, enclose_eq_spread writes _ _ nonempty⟩
  intro member present
  obtain ⟨given, _, rfl | rfl⟩ := exists_of_mem_spread present
  · exact ⟨isBlank_lineBreak layout _, bodyText_escapeCharacters _, isBlank_nil,
      isBlank_afterColon layout, isBlank_lineBreak layout _⟩
  · exact ⟨isBlank_lineBreak layout _, bodyText_escapeCharacters _, isBlank_nil,
      isBlank_afterColon layout, isBlank_nil⟩

/-- A list of written values stands for the list of their values. -/
theorem IsListOf.valueText
    {items : List ItemText}
    {written : List WrittenValue}
    {text : List Char}
    (isList : IsListOf items written text)
    (stands : ∀ item ∈ written, ValueText item.text item.value) :
    ValueText text (.list (written.map WrittenValue.value)) := by
  rw [isList.text, ← isList.written, List.map_map]
  refine .list isList.nonempty isList.spaced fun item member => ?_
  refine stands item.writtenValue ?_
  rw [← isList.written]
  exact List.mem_map_of_mem member

/-- An object of written values stands for the object of their values. -/
theorem IsObjectOf.valueText
    {members : List MemberText}
    {written : List (String × WrittenValue)}
    {text : List Char}
    (isObject : IsObjectOf members written text)
    (stands : ∀ member ∈ written, ValueText member.2.text member.2.value) :
    ValueText text (.object (written.map fun member => (member.1, member.2.value))) := by
  rw [isObject.text, ← isObject.written, List.map_map]
  refine .object isObject.nonempty isObject.spaced fun member present => ?_
  refine stands member.writtenEntry ?_
  rw [← isObject.written]
  exact List.mem_map_of_mem present

end JsonText

end InitializerJson
