import InitializerJson.Extraction.Batch
import InitializerJson.Proofs.Json.PartTexts
import InitializerJson.Proofs.Value.BlockShape

namespace InitializerJson

open JsonText

/-!
# Reports are decoded as they were written

A report is a list of objects with a path, a status and a body.  Each body stands
in the report as it is, in either layout, so that its text is found there again.
-/

/-- What an entry of a report says, with the text of its body. -/
structure ReportedEntry where
  path : String
  status : String
  bodyText : String
  body : Value

/-- What an entry says that has the given members and no others. -/
def ReportedEntry.ofMembers? : List (String × List Char) → Option ReportedEntry
  | [("path", path), ("status", status), ("body", body)] =>
      match decode? path, decode? status, decode? body with
      | some (.string path), some (.string status), some value =>
          some ⟨path, status, String.ofList body, value⟩
      | _, _, _ => none
  | _ => none

/-- The entries of a report. -/
def decodeReport?
    (text : List Char) :
    Option (List ReportedEntry) :=
  (decodeItems? text).bind fun items =>
    items.mapM fun item => (decodeMembers? item).bind ReportedEntry.ofMembers?

/-- A value as written, without white space, is decoded as the value. -/
theorem JsonText.ValueText.decode?_eq
    {text : List Char}
    {value : Value}
    (written : ValueText text value) :
    decode? text = some value :=
  decode?_of_isDocument ⟨[], text, [], isBlank_nil, isBlank_nil, written, (List.append_nil _).symm⟩

/-- A quoted text stands for the text. -/
theorem valueText_quote
    (text : String) :
    ValueText (quote text) (.string text) := by
  have written := ValueText.string (bodyText_escapeCharacters text.toList)
  rwa [String.ofList_toList] at written

namespace BatchEntry

/-- The value that the body of an entry stands for. -/
def bodyValue
    (entry : BatchEntry) :
    Value :=
  (decode? entry.body).getD .null

/-- A body that stands for a value is decoded as that value. -/
theorem bodyValue_eq
    {entry : BatchEntry}
    {value : Value}
    (stands : ValueText entry.body value) :
    entry.bodyValue = value := by
  rw [bodyValue, stands.decode?_eq, Option.getD_some]

/-- What the report says of an entry. -/
def reported
    (entry : BatchEntry) :
    ReportedEntry :=
  ⟨entry.path, entry.status, String.ofList entry.body, entry.bodyValue⟩

/-- The members of the object that is written for an entry. -/
def writtenMembers
    (entry : BatchEntry) :
    List (String × WrittenValue) :=
  [
    ("path", ⟨quote entry.path, .string entry.path⟩),
    ("status", ⟨quote entry.status, .string entry.status⟩),
    ("body", ⟨entry.body, entry.bodyValue⟩)
  ]

/-- The object that is written for an entry. -/
def writtenObject
    (layout : Layout)
    (entry : BatchEntry) :
    WrittenValue where
  text :=
    entry.write layout
  value :=
    .object (entry.writtenMembers.map fun member => (member.1, member.2.value))

section Entry

variable
  {entry : BatchEntry}
  (stands : ValueText entry.body entry.bodyValue)

include stands

/-- The members of an entry stand for its path, its status and its body. -/
theorem valueText_writtenMembers :
    ∀ member ∈ entry.writtenMembers, ValueText member.2.text member.2.value := by
  simp only [writtenMembers, List.forall_mem_cons]
  exact ⟨valueText_quote _, valueText_quote _, stands, List.forall_mem_nil _⟩

/-- An entry as written stands for its object, which has its three members. -/
theorem valueText_write_and_decode
    (layout : Layout) :
    ValueText (entry.write layout) (entry.writtenObject layout).value ∧
      decodeMembers? (entry.write layout) =
        some (entry.writtenMembers.map fun member => (member.1, member.2.text)) := by
  have filled : entry.writtenMembers ≠ [] :=
    List.cons_ne_nil _ _
  have members := valueText_writtenMembers stands
  obtain ⟨texts, isObject⟩ := exists_isObjectOf_enclose layout 1 filled
  exact ⟨isObject.valueText members, isObject.decodeMembers?_eq members⟩

/-- An entry is read back from what is written for it. -/
theorem decode_write
    (layout : Layout) :
    (decodeMembers? (entry.write layout)).bind ReportedEntry.ofMembers? =
      some entry.reported := by
  rw [(valueText_write_and_decode stands layout).2]
  simp only [writtenMembers, List.map_cons, List.map_nil, Option.bind_some,
    ReportedEntry.ofMembers?, (valueText_quote _).decode?_eq, stands.decode?_eq]
  rfl

end Entry

end BatchEntry

/-- The report on some entries is decoded as what was reported of each, in either layout. -/
theorem decodeReport?_writeReport
    (layout : Layout)
    {entries : List BatchEntry}
    (nonempty : entries ≠ [])
    (stand : ∀ entry ∈ entries, ValueText entry.body entry.bodyValue) :
    decodeReport? (writeReport layout entries).toList =
      some (entries.map BatchEntry.reported) := by
  have filled : entries.map (BatchEntry.writtenObject layout) ≠ [] := by
    simpa using nonempty
  have objects : ∀ item ∈ entries.map (BatchEntry.writtenObject layout),
      ValueText item.text item.value :=
    List.forall_mem_map.mpr fun entry member =>
      (BatchEntry.valueText_write_and_decode (stand entry member) layout).1
  obtain ⟨texts, isList⟩ := exists_isListOf_enclose layout 0 filled
  have items := isList.decodeItems?_eq objects
  rw [List.map_map] at items
  have text : WrittenValue.text ∘ BatchEntry.writtenObject layout = BatchEntry.write layout :=
    rfl
  rw [text] at items
  rw [writeReport, String.toList_ofList, decodeReport?, items, Option.bind_some]
  exact mapM_map_eq_some_map fun entry member => BatchEntry.decode_write (stand entry member) layout

end InitializerJson
