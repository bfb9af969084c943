import InitializerJson.Proofs.Json.NumberText
import InitializerJson.Proofs.Json.QuotedText
import InitializerJson.Value.Basic

namespace InitializerJson.JsonText

/-!
# JSON documents

The grammar of JSON documents, with the value that each document stands for, and
a decoder.  Members keep their order and repetitions, numbers keep their nature
and real numbers their text.  The decoder reads every document as the value it
stands for, so that no document stands for two values.
-/

/-- The white space that may stand between the parts of a document. -/
def isSpace
    (character : Char) :
    Bool :=
  character == ' ' || character == '\t' || character == '\n' || character == '\r'

/-- A text of white space only. -/
def IsBlank
    (text : List Char) :
    Prop :=
  ∀ character ∈ text, isSpace character = true

/-- An item of a list as written, with the white space around it. -/
structure ItemText where
  before : List Char
  written : List Char
  after : List Char
  value : Value

/-- The whole text of an item. -/
def ItemText.text
    (item : ItemText) :
    List Char :=
  item.before ++ (item.written ++ item.after)

/-- White space stands around an item. -/
structure ItemText.Spaced
    (item : ItemText) :
    Prop where
  before : IsBlank item.before
  after : IsBlank item.after

/-- A member of an object as written, with the white space around its parts. -/
structure MemberText where
  before : List Char
  body : List Char
  name : List Char
  beforeColon : List Char
  item : ItemText

/-- The whole text of a member. -/
def MemberText.text
    (member : MemberText) :
    List Char :=
  member.before ++ ('"' :: (member.body ++ '"' ::
    (member.beforeColon ++ ':' :: member.item.text)))

/-- The name and value of a member. -/
def MemberText.entry
    (member : MemberText) :
    String × Value :=
  (String.ofList member.name, member.item.value)

/-- A member's name is a string, and white space stands around its parts. -/
structure MemberText.Spaced
    (member : MemberText) :
    Prop where
  before : IsBlank member.before
  body : BodyText member.body member.name
  beforeColon : IsBlank member.beforeColon
  item : member.item.Spaced

/-- A JSON value as written, and the value it stands for. -/
inductive ValueText : List Char → Value → Prop where
  | nullWord :
      ValueText ['n', 'u', 'l', 'l'] .null
  | trueWord :
      ValueText ['t', 'r', 'u', 'e'] (.bool true)
  | falseWord :
      ValueText ['f', 'a', 'l', 's', 'e'] (.bool false)
  | number
      {text : List Char}
      {number : Number} :
      NumberText text number →
      ValueText text (.number number)
  | string
      {body text : List Char} :
      BodyText body text →
      ValueText ('"' :: (body ++ ['"'])) (.string (String.ofList text))
  | emptyList
      {space : List Char} :
      IsBlank space →
      ValueText ('[' :: (space ++ [']'])) (.list [])
  | list
      {items : List ItemText} :
      items ≠ [] →
      (∀ item ∈ items, item.Spaced) →
      (∀ item ∈ items, ValueText item.written item.value) →
      ValueText ('[' :: ([','].intercalate (items.map ItemText.text) ++ [']']))
        (.list (items.map ItemText.value))
  | emptyObject
      {space : List Char} :
      IsBlank space →
      ValueText ('{' :: (space ++ ['}'])) (.object [])
  | object
      {members : List MemberText} :
      members ≠ [] →
      (∀ member ∈ members, member.Spaced) →
      (∀ member ∈ members,
        ValueText member.item.written member.item.value) →
      ValueText ('{' :: ([','].intercalate (members.map MemberText.text) ++ ['}']))
        (.object (members.map MemberText.entry))

/-- A document: one value, with white space around it. -/
def IsDocument
    (text : List Char)
    (value : Value) :
    Prop :=
  ∃ before written after,
    IsBlank before ∧
      IsBlank after ∧
      ValueText written value ∧
      text = before ++ (written ++ after)

/-- A reader that may fail and leaves a suffix. -/
structure PartialReader (α : Type) where
  read : List Char → Option (α × List Char)
  suffix : ∀ {text found}, read text = some found → found.2 <:+ text

/-- The text behind white space. -/
def skipSpace
    (text : List Char) :
    List Char :=
  text.dropWhile isSpace

/-- White space leaves a suffix. -/
theorem skipSpace_suffix
    (text : List Char) :
    skipSpace text <:+ text :=
  List.dropWhile_suffix isSpace

/--
Items with commas between them and a closing bracket behind the last one, and
the text after that bracket.
-/
def readSeparated?
    {α : Type}
    (item : PartialReader α)
    (closing : Char)
    (text : List Char) :
    Option (List α × List Char) :=
  match _reading : item.read text with
  | some (first, next :: rest) =>
      if next = ',' then
        (readSeparated? item closing rest).map fun others =>
          (first :: others.1, others.2)
      else if next = closing then
        some ([first], rest)
      else
        none
  | _ => none
termination_by text.length
decreasing_by
  exact Nat.lt_of_lt_of_le (Nat.lt_succ_self _) (item.suffix _reading).length_le

/-- A value with white space around it. -/
def itemReader
    (inner : PartialReader Value) :
    PartialReader Value where
  read text :=
    (inner.read (skipSpace text)).map fun read => (read.1, skipSpace read.2)
  suffix found := by
    obtain ⟨read, reading, rfl⟩ := Option.map_eq_some_iff.mp found
    exact (skipSpace_suffix read.2).trans
      ((inner.suffix reading).trans (skipSpace_suffix _))

/-- A name, a colon and a value, with white space around them. -/
def memberReader
    (inner : PartialReader Value) :
    PartialReader (String × Value) where
  read text :=
    (readQuoted? (skipSpace text)).bind fun name =>
      (afterMark? [':'] (skipSpace name.2)).bind fun rest =>
        ((itemReader inner).read rest).map fun read =>
          ((String.ofList name.1, read.1), read.2)
  suffix found := by
    obtain ⟨name, naming, found⟩ := Option.bind_eq_some_iff.mp found
    obtain ⟨rest, colon, found⟩ := Option.bind_eq_some_iff.mp found
    obtain ⟨read, reading, rfl⟩ := Option.map_eq_some_iff.mp found
    have colonSuffix : rest <:+ skipSpace name.2 :=
      ⟨[':'], (afterMark?_eq_some_iff.mp colon).symm⟩
    have nameSuffix : skipSpace name.2 <:+ _ :=
      (skipSpace_suffix name.2).trans
        ((readQuoted?_suffix naming).trans (skipSpace_suffix _))
    exact (((itemReader inner).suffix reading).trans colonSuffix).trans nameSuffix

/-- What is built from the items between brackets, read behind the opening one. -/
def readContainer?
    {α : Type}
    (item : PartialReader α)
    (closing : Char)
    (build : List α → Value)
    (text : List Char) :
    Option (Value × List Char) :=
  if (skipSpace text).head? = some closing then
    some (build [], (skipSpace text).tail)
  else
    (readSeparated? item closing text).map fun read => (build read.1, read.2)

/-- A text that stands for a fixed value. -/
def readWord?
    (word : List Char)
    (value : Value)
    (text : List Char) :
    Option (Value × List Char) :=
  (afterMark? word text).map fun rest => (value, rest)

/-- A value without brackets or quotes. -/
def readPlain?
    (text : List Char) :
    Option (Value × List Char) :=
  (readWord? ['n', 'u', 'l', 'l'] .null text).or <|
  (readWord? ['t', 'r', 'u', 'e'] (.bool true) text).or <|
  (readWord? ['f', 'a', 'l', 's', 'e'] (.bool false) text).or <|
  (readNumber? text).map fun read => (.number read.1, read.2)

/-- A value whose inner values are read by another reader. -/
def readLayer?
    (inner : PartialReader Value) :
    List Char → Option (Value × List Char)
  | '"' :: rest =>
      (readBody? rest).map fun read => (.string (String.ofList read.1), read.2)
  | '[' :: rest => readContainer? (itemReader inner) ']' .list rest
  | '{' :: rest => readContainer? (memberReader inner) '}' .object rest
  | text => readPlain? text

/-- Separated items leave a suffix. -/
theorem readSeparated?_suffix
    {α : Type}
    {item : PartialReader α}
    {closing : Char}
    {text : List Char}
    {read : List α × List Char}
    (found : readSeparated? item closing text = some read) :
    read.2 <:+ text := by
  fun_induction readSeparated? item closing text generalizing read with
  | case1 text first rest reading hypothesis =>
      obtain ⟨others, othersFound, rfl⟩ := Option.map_eq_some_iff.mp found
      exact ((hypothesis othersFound).trans (List.suffix_cons _ rest)).trans
        (item.suffix reading)
  | case2 text first rest reading =>
      cases found
      exact (List.suffix_cons _ rest).trans (item.suffix reading)
  | case3 => cases found
  | case4 => cases found

/-- A container leaves a suffix. -/
theorem readContainer?_suffix
    {α : Type}
    {item : PartialReader α}
    {closing : Char}
    {build : List α → Value}
    {text : List Char}
    {read : Value × List Char}
    (found : readContainer? item closing build text = some read) :
    read.2 <:+ text := by
  unfold readContainer? at found
  split at found
  · cases found
    exact (List.tail_suffix _).trans (skipSpace_suffix text)
  · obtain ⟨items, separated, rfl⟩ := Option.map_eq_some_iff.mp found
    exact readSeparated?_suffix separated

/-- A fixed text leaves a suffix. -/
theorem readWord?_suffix
    {word text : List Char}
    {value : Value}
    {read : Value × List Char}
    (found : readWord? word value text = some read) :
    read.2 <:+ text := by
  obtain ⟨rest, matched, rfl⟩ := Option.map_eq_some_iff.mp found
  exact ⟨word, (afterMark?_eq_some_iff.mp matched).symm⟩

/-- A value without brackets or quotes leaves a suffix. -/
theorem readPlain?_suffix
    {text : List Char}
    {read : Value × List Char}
    (found : readPlain? text = some read) :
    read.2 <:+ text := by
  rcases Option.or_eq_some_iff.mp found with found | ⟨_, found⟩
  · exact readWord?_suffix found
  · rcases Option.or_eq_some_iff.mp found with found | ⟨_, found⟩
    · exact readWord?_suffix found
    · rcases Option.or_eq_some_iff.mp found with found | ⟨_, found⟩
      · exact readWord?_suffix found
      · obtain ⟨number, reading, rfl⟩ := Option.map_eq_some_iff.mp found
        exact readNumber?_suffix reading

/-- A value leaves a suffix when its inner values do. -/
theorem readLayer?_suffix
    {inner : PartialReader Value}
    {text : List Char}
    {read : Value × List Char}
    (found : readLayer? inner text = some read) :
    read.2 <:+ text := by
  unfold readLayer? at found
  split at found
  · obtain ⟨body, reading, rfl⟩ := Option.map_eq_some_iff.mp found
    exact (readBody?_suffix reading).trans (List.suffix_cons _ _)
  · exact (readContainer?_suffix found).trans (List.suffix_cons _ _)
  · exact (readContainer?_suffix found).trans (List.suffix_cons _ _)
  · exact readPlain?_suffix found

/-- The reader of values that nest at most `room` deep. -/
def valueReader : (room : Nat) → PartialReader Value
  | 0 =>
      {
        read := fun _ => none
        suffix := fun found => nomatch found
      }
  | room + 1 =>
      {
        read := readLayer? (valueReader room)
        suffix := readLayer?_suffix
      }

/-- The value of a document; no value nests deeper than its text is long. -/
def decode?
    (text : List Char) :
    Option Value :=
  match (itemReader (valueReader text.length)).read text with
  | some (value, []) => some value
  | _ => none

end InitializerJson.JsonText
