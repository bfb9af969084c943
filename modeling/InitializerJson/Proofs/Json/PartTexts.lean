import InitializerJson.Proofs.Json.Decoding
import InitializerJson.Proofs.Json.Enclosed

namespace InitializerJson.JsonText

/-!
# The texts of the parts of a document

A list or an object can be taken apart without decoding the values in it: every
value is passed over, and its text is kept as it stands there.
-/

/-- The text of a value with white space around it, without that white space. -/
def textReader
    (room : Nat) :
    PartialReader (List Char) where
  read text :=
    ((valueReader room).read (skipSpace text)).map fun read =>
      (taken (skipSpace text) read.2, skipSpace read.2)
  suffix found := by
    obtain ⟨read, reading, rfl⟩ := Option.map_eq_some_iff.mp found
    exact (skipSpace_suffix read.2).trans
      (((valueReader room).suffix reading).trans (skipSpace_suffix _))

/-- A name, a colon and what another reader reads, with white space before and behind the name. -/
def namedReader
    {α : Type}
    (item : PartialReader α) :
    PartialReader (String × α) where
  read text :=
    (readQuoted? (skipSpace text)).bind fun name =>
      (afterMark? [':'] (skipSpace name.2)).bind fun rest =>
        (item.read rest).map fun read => ((String.ofList name.1, read.1), read.2)
  suffix found := by
    obtain ⟨name, naming, found⟩ := Option.bind_eq_some_iff.mp found
    obtain ⟨rest, colon, found⟩ := Option.bind_eq_some_iff.mp found
    obtain ⟨read, reading, rfl⟩ := Option.map_eq_some_iff.mp found
    have colonSuffix : rest <:+ skipSpace name.2 :=
      ⟨[':'], (afterMark?_eq_some_iff.mp colon).symm⟩
    exact ((item.suffix reading).trans colonSuffix).trans
      ((skipSpace_suffix name.2).trans
        ((readQuoted?_suffix naming).trans (skipSpace_suffix _)))

/-- The parts of a document that is one container with at least one part. -/
def decodeParts?
    {α : Type}
    (part : PartialReader α)
    (opening closing : Char)
    (text : List Char) :
    Option (List α) :=
  (afterMark? [opening] (skipSpace text)).bind fun inside =>
    (readSeparated? part closing inside).bind fun read =>
      if (skipSpace read.2).isEmpty then
        some read.1
      else
        none

/-- The texts of the items of a list. -/
def decodeItems?
    (text : List Char) :
    Option (List (List Char)) :=
  decodeParts? (textReader text.length) '[' ']' text

/-- The names of the members of an object with the texts of their values. -/
def decodeMembers?
    (text : List Char) :
    Option (List (String × List Char)) :=
  decodeParts? (namedReader (textReader text.length)) '{' '}' text

/-- The text of an item is read up to what follows, and kept as it is. -/
theorem textReader_itemText
    {room : Nat}
    {item : ItemText}
    {next : Char}
    (rest : List Char)
    (spaced : item.Spaced)
    (written : ValueText item.written item.value)
    (enough : item.written.length ≤ room)
    (notSpace : isSpace next = false)
    (notNumber : continuesNumber next = false) :
    (textReader room).read (item.text ++ next :: rest) = some (item.written, next :: rest) := by
  have front := skipSpace_itemText spaced written (next :: rest)
  have back : skipSpace (item.after ++ next :: rest) = next :: rest :=
    skipSpace_append spaced.after (endsRun_cons notSpace)
  have ends : EndsRun continuesNumber (item.after ++ next :: rest) :=
    endsRun_continuesNumber spaced.after notNumber
  have reading := read_valueText written enough ends
  simp only [textReader, front, reading, Option.map_some, taken_append_left, back]

/-- The name and the value's text of a member are read up to what follows. -/
theorem namedReader_memberText
    {room : Nat}
    {member : MemberText}
    {next : Char}
    (rest : List Char)
    (spaced : member.Spaced)
    (written : ValueText member.item.written member.item.value)
    (enough : member.item.written.length ≤ room)
    (notSpace : isSpace next = false)
    (notNumber : continuesNumber next = false) :
    (namedReader (textReader room)).read (member.text ++ next :: rest) =
      some ((String.ofList member.name, member.item.written), next :: rest) := by
  obtain ⟨behind, name, colon⟩ := name_memberText spaced (next :: rest)
  have value := textReader_itemText rest spaced.item written enough notSpace notNumber
  simp [namedReader, name, colon, value]

/-- A container is taken apart when each of its parts is read up to a comma or its end. -/
theorem decodeParts?_intercalate
    {α : Type}
    {part : PartialReader α}
    {opening closing : Char}
    {entries : List (List Char × α)}
    (notSpace : isSpace opening = false)
    (notComma : closing ≠ ',')
    (nonempty : entries ≠ [])
    (reads :
      ∀ entry ∈ entries,
        ∀ next behind,
          next = ',' ∨ next = closing →
          part.read (entry.1 ++ next :: behind) = some (entry.2, next :: behind)) :
    decodeParts? part opening closing
        (opening :: ([','].intercalate (entries.map Prod.fst) ++ [closing])) =
      some (entries.map Prod.snd) := by
  have front : ∀ text, skipSpace (opening :: text) = opening :: text := fun text =>
    skipSpace_append isBlank_nil (endsRun_cons notSpace)
  have reading :
      readSeparated? part closing ([','].intercalate (entries.map Prod.fst) ++ [closing]) =
        some (entries.map Prod.snd, []) :=
    readSeparated?_intercalate notComma nonempty reads
  have back : skipSpace [] = [] :=
    rfl
  simp [decodeParts?, front, afterMark?, reading, back]

/-- A list is taken apart into the texts of its items. -/
theorem IsListOf.decodeItems?_eq
    {items : List ItemText}
    {written : List WrittenValue}
    {text : List Char}
    (isList : IsListOf items written text)
    (stands : ∀ item ∈ written, ValueText item.text item.value) :
    decodeItems? text = some (written.map WrittenValue.text) := by
  obtain ⟨nonempty, spaced, rfl, whole⟩ := isList
  have enough : ∀ item ∈ items, item.written.length ≤ text.length := by
    intro item member
    rw [whole]
    exact Nat.le_of_lt (ItemText.length_written_lt member)
  have reads :
      ∀ entry ∈ items.map fun item => (item.text, item.written),
        ∀ next behind, next = ',' ∨ next = ']' →
          (textReader text.length).read (entry.1 ++ next :: behind) =
            some (entry.2, next :: behind) := by
    intro entry inEntries next behind ends
    obtain ⟨item, member, rfl⟩ := List.mem_map.mp inEntries
    have outside : isSpace next = false ∧ continuesNumber next = false := by
      rcases ends with rfl | rfl <;> decide
    exact textReader_itemText behind (spaced item member)
      (stands item.writtenValue (List.mem_map_of_mem member)) (enough item member)
      outside.1 outside.2
  have notSpace : isSpace '[' = false := by
    decide
  have parts :=
    decodeParts?_intercalate notSpace (by decide) (by simpa using nonempty) reads
  simp only [List.map_map] at parts ⊢
  exact (congrArg (decodeParts? (textReader text.length) '[' ']') whole).trans parts

/-- An object is taken apart into the names and texts of its members. -/
theorem IsObjectOf.decodeMembers?_eq
    {members : List MemberText}
    {written : List (String × WrittenValue)}
    {text : List Char}
    (isObject : IsObjectOf members written text)
    (stands : ∀ member ∈ written, ValueText member.2.text member.2.value) :
    decodeMembers? text = some (written.map fun member => (member.1, member.2.text)) := by
  obtain ⟨nonempty, spaced, rfl, whole⟩ := isObject
  have enough : ∀ member ∈ members, member.item.written.length ≤ text.length := by
    intro member inMembers
    rw [whole]
    exact Nat.le_of_lt (MemberText.length_written_lt inMembers)
  have reads :
      ∀ entry ∈ members.map fun member =>
          (member.text, (String.ofList member.name, member.item.written)),
        ∀ next behind, next = ',' ∨ next = '}' →
          (namedReader (textReader text.length)).read (entry.1 ++ next :: behind) =
            some (entry.2, next :: behind) := by
    intro entry inEntries next behind ends
    obtain ⟨member, inMembers, rfl⟩ := List.mem_map.mp inEntries
    have outside : isSpace next = false ∧ continuesNumber next = false := by
      rcases ends with rfl | rfl <;> decide
    exact namedReader_memberText behind (spaced member inMembers)
      (stands member.writtenEntry (List.mem_map_of_mem inMembers)) (enough member inMembers)
      outside.1 outside.2
  have notSpace : isSpace '{' = false := by
    decide
  have parts :=
    decodeParts?_intercalate notSpace (by decide) (by simpa using nonempty) reads
  simp only [List.map_map] at parts ⊢
  exact (congrArg (decodeParts? (namedReader (textReader text.length)) '{' '}') whole).trans parts

end InitializerJson.JsonText
