import InitializerJson.Proofs.Json.Decoding
import InitializerJson.Proofs.Json.Enclosed

namespace InitializerJson

open JsonText

/-!
# Values are rendered without loss

In either layout the JSON text of a value is one document that stands for the
value, as long as real numbers carry JSON numbers as their text.  What is
rendered is therefore decoded as the value it came from, and different values
have different texts.
-/

/-- A real number's text is a JSON number with a fraction or an exponent. -/
def Number.IsJson : Number → Prop
  | integer _ => True
  | real text => NumberText text.toList (real text)

namespace Value

mutual

/-- Every real number in a value is a JSON number. -/
def IsJson : Value → Prop
  | null => True
  | bool _ => True
  | number value => value.IsJson
  | string _ => True
  | list items => ItemsAreJson items
  | object members => MembersAreJson members

/-- Every real number in some items is a JSON number. -/
def ItemsAreJson : List Value → Prop
  | [] => True
  | item :: items => item.IsJson ∧ ItemsAreJson items

/-- Every real number in some members is a JSON number. -/
def MembersAreJson : List (String × Value) → Prop
  | [] => True
  | (_, value) :: members => value.IsJson ∧ MembersAreJson members

end

end Value

/-- The text of a number stands for the number. -/
theorem numberText_text
    {number : Number}
    (json : number.IsJson) :
    NumberText number.text.toList number := by
  cases number with
  | integer value => exact numberText_integer value
  | real text => exact json

namespace Value

/-- The items of a list are written one by one. -/
theorem writeItems_eq_map
    (layout : Layout)
    (depth : Nat)
    (items : List Value) :
    writeItems layout depth items = items.map (write layout depth) := by
  induction items with
  | nil => rfl
  | cons item items hypothesis => rw [writeItems, hypothesis, List.map_cons]

/-- The members of an object are written one by one. -/
theorem writeMembers_eq_map
    (layout : Layout)
    (depth : Nat)
    (members : List (String × Value)) :
    writeMembers layout depth members =
      members.map fun member => layout.member member.1 (write layout depth member.2) := by
  induction members with
  | nil => rfl
  | cons member members hypothesis => rw [writeMembers, hypothesis, List.map_cons]

/-- Some items are JSON exactly when each of them is. -/
theorem itemsAreJson_iff
    {items : List Value} :
    ItemsAreJson items ↔ ∀ item ∈ items, item.IsJson := by
  induction items with
  | nil => simp [ItemsAreJson]
  | cons item items hypothesis => simp [ItemsAreJson, hypothesis]

/-- Some members are JSON exactly when the value of each of them is. -/
theorem membersAreJson_iff
    {members : List (String × Value)} :
    MembersAreJson members ↔ ∀ member ∈ members, member.2.IsJson := by
  induction members with
  | nil => simp [MembersAreJson]
  | cons member members hypothesis =>
      rw [MembersAreJson, hypothesis, List.forall_mem_cons]

/-- A list as written stands for the list, when its items do. -/
theorem valueText_writtenList
    (layout : Layout)
    (depth : Nat)
    {items : List Value}
    (stands : ∀ item ∈ items, ValueText (item.write layout (depth + 1)) item) :
    ValueText ((list items).write layout depth) (list items) := by
  rw [write, writeItems_eq_map]
  by_cases nonempty : items = []
  · subst nonempty
    exact ValueText.emptyList isBlank_nil
  let written (item : Value) : WrittenValue :=
    ⟨item.write layout (depth + 1), item⟩
  have filled : items.map written ≠ [] := by
    simpa using nonempty
  have values : WrittenValue.value ∘ written = id :=
    rfl
  obtain ⟨texts, isList⟩ := exists_isListOf_enclose layout depth filled
  have stood := isList.valueText (List.forall_mem_map.mpr stands)
  rw [List.map_map, List.map_map, values, List.map_id] at stood
  exact stood

/-- An object as written stands for the object, when its members' values do. -/
theorem valueText_writtenObject
    (layout : Layout)
    (depth : Nat)
    {members : List (String × Value)}
    (stands :
      ∀ member ∈ members, ValueText (member.2.write layout (depth + 1)) member.2) :
    ValueText ((object members).write layout depth) (object members) := by
  rw [write, writeMembers_eq_map]
  by_cases nonempty : members = []
  · subst nonempty
    exact ValueText.emptyObject isBlank_nil
  let written (member : String × Value) : String × WrittenValue :=
    (member.1, ⟨member.2.write layout (depth + 1), member.2⟩)
  have filled : members.map written ≠ [] := by
    simpa using nonempty
  have values :
      (fun member : String × WrittenValue => (member.1, member.2.value)) ∘ written = id :=
    rfl
  obtain ⟨texts, isObject⟩ := exists_isObjectOf_enclose layout depth filled
  have stood := isObject.valueText (List.forall_mem_map.mpr stands)
  rw [List.map_map, List.map_map, values, List.map_id] at stood
  exact stood

/-- A value as written stands for the value. -/
theorem valueText_write
    (layout : Layout)
    {value : Value}
    (json : value.IsJson)
    (depth : Nat) :
    ValueText (value.write layout depth) value := by
  induction value using nestedInduction generalizing depth with
  | null => exact .nullWord
  | bool truth =>
      cases truth with
      | true => exact .trueWord
      | false => exact .falseWord
  | number number => exact .number (numberText_text json)
  | string text =>
      have written := ValueText.string (bodyText_escapeCharacters text.toList)
      rw [String.ofList_toList] at written
      exact written
  | list items hypothesis =>
      apply valueText_writtenList
      intro item member
      exact hypothesis item member (itemsAreJson_iff.mp json item member) _
  | object members hypothesis =>
      apply valueText_writtenObject
      intro member present
      exact hypothesis member present (membersAreJson_iff.mp json member present) _

/-- The text of a value is one document that stands for the value. -/
theorem isDocument_render
    (layout : Layout)
    {value : Value}
    (json : value.IsJson) :
    IsDocument (value.render layout).toList value := by
  rw [render, String.toList_ofList]
  exact ⟨[], value.write layout 0, [], isBlank_nil, isBlank_nil,
    valueText_write layout json 0, by simp⟩

/--
The text of a value is one document, is decoded as the value, and is the text of
no other value.
-/
theorem render_lossless
    (layout : Layout)
    {value : Value}
    (json : value.IsJson) :
    IsDocument (value.render layout).toList value ∧
      decode? (value.render layout).toList = some value ∧
      ∀ other : Value,
        other.IsJson →
        other.render layout = value.render layout →
        other = value := by
  have decoded := decode?_of_isDocument (isDocument_render layout json)
  refine ⟨isDocument_render layout json, decoded, ?_⟩
  intro other otherJson same
  have otherDecoded := decode?_of_isDocument (isDocument_render layout otherJson)
  rw [same, decoded] at otherDecoded
  exact (Option.some.inj otherDecoded).symm

/-- Measurements with a quoted name, a real number and empty containers. -/
def measurements : Value :=
  object
    [("\"a\"\n", list [number (.real "-1.50e-3"), number (.integer (-7)), list []]),
      ("b", object [])]

/-- The real number of the measurements is a JSON number. -/
theorem isJson_measurements :
    measurements.IsJson := by
  have whole : WholeText ['1'] :=
    .positive (by decide) (by decide) (by simp)
  have fraction : FractionText ['.', '5', '0'] :=
    .present (by simp) (List.all_eq_true.mp (by decide))
  have exponent : ExponentText ('e' :: (['-'] ++ ['3'])) :=
    .present (.inl rfl) (.inr (.inr rfl)) (by simp) (List.all_eq_true.mp (by decide))
  have real : NumberText "-1.50e-3".toList (.real "-1.50e-3") :=
    @NumberText.real true _ _ _ whole fraction exponent (by simp)
  have some_number : (number (.real "-1.50e-3")).IsJson :=
    real
  simp only [measurements, IsJson, ItemsAreJson, MembersAreJson, Number.IsJson, and_true]
    at some_number ⊢
  exact some_number

/-- The measurements are read back from their text. -/
theorem render_lossless_measurements :
    measurements.IsJson ∧
      IsDocument (measurements.render .indented).toList measurements ∧
      decode? (measurements.render .indented).toList = some measurements ∧
      ∀ other : Value,
        other.IsJson →
        other.render .indented = measurements.render .indented →
        other = measurements :=
  ⟨isJson_measurements, render_lossless .indented isJson_measurements⟩

end Value

end InitializerJson
