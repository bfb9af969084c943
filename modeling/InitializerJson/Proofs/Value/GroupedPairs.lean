import InitializerJson.Proofs.Value.Canonical
import InitializerJson.Proofs.Value.InsertionOrder

namespace InitializerJson

open JsonText Lexical

/-!
# Grouped pairs are flattened

A block of groups of two stands for an object of plain texts.  Its names are the
texts of the first halves, in the order in which they first occur, and the last
group with a name gives the value.  Both halves become text once and for all: a
list or an object is kept as its JSON text, from which it can be decoded again.
-/

namespace Expression

/-- The group of two expressions. -/
def group
    (pair : Expression × Expression) :
    Expression :=
  initializer [pair.1, pair.2]

end Expression

namespace Value

/-! ## What is kept of a value -/

/-- What is kept of the second half of a group, by the value of that half. -/
inductive KeptAs : Value → Value → Prop where
  | null :
      KeptAs .null .null
  | true :
      KeptAs (.bool true) (.string "True")
  | false :
      KeptAs (.bool false) (.string "False")
  | number
      {number : Number} :
      KeptAs (.number number) (.string number.text)
  | string
      {text : String} :
      KeptAs (.string text) (.string text)
  /-- A list is decoded from its text, as long as its real numbers are those of JSON. -/
  | list
      {items : List Value}
      {text : String}
      (decodes : (Value.list items).IsJson → decode? text.toList = some (.list items)) :
      KeptAs (.list items) (.string text)
  /-- So is an object. -/
  | object
      {members : List (String × Value)}
      {text : String}
      (decodes : (Value.object members).IsJson → decode? text.toList = some (.object members)) :
      KeptAs (.object members) (.string text)

/-- The plain text of a value as a value of its own; null stands for no text. -/
def flattened
    (value : Value) :
    Value :=
  (value.text?.map string).getD null

/-- Compact text is decoded as the value it was rendered from. -/
theorem decode?_render_compact
    {value : Value}
    (json : value.IsJson) :
    decode? (value.render .compact).toList = some value :=
  decode?_of_isDocument (isDocument_render .compact json)

/-- The plain text of a value is what is to be kept of it. -/
theorem keptAs_flattened
    (value : Value) :
    KeptAs value value.flattened := by
  cases value with
  | null => exact .null
  | bool truth =>
      cases truth with
      | true => exact .true
      | false => exact .false
  | number => exact .number
  | string => exact .string
  | list => exact .list decode?_render_compact
  | object => exact .object decode?_render_compact

/-- What is kept of a value is null or text. -/
theorem KeptAs.isText
    {value kept : Value}
    (keeps : KeptAs value kept) :
    kept = .null ∨ ∃ text, kept = .string text := by
  cases keeps with
  | null => exact .inl rfl
  | true | false | number | string | list | object => exact .inr ⟨_, rfl⟩

/-- Nothing but null has no text. -/
theorem eq_null_of_text?
    {value : Value}
    (none : value.text? = none) :
    value = .null := by
  cases value with
  | null => rfl
  | bool truth => cases truth <;> cases none
  | number | string | list | object => cases none

/-- A text that a value has is kept of it. -/
theorem keptAs_of_text?
    {value : Value}
    {text : String}
    (given : value.text? = some text) :
    KeptAs value (.string text) := by
  have keeps := keptAs_flattened value
  rwa [flattened, given] at keeps

/-! ## Groups -/

/-- The name that a group gives: the text of its first half. -/
def groupName?
    (pair : Expression × Expression) :
    Option String :=
  (ofExpression pair.1).text?

/-- The member that a group contributes under its name. -/
def groupMember?
    (pair : Expression × Expression) :
    Option (String × Value) :=
  (groupName? pair).map fun name => (name, (ofExpression pair.2).flattened)

/-- Whether a group gives this name. -/
def givesName
    (name : String)
    (pair : Expression × Expression) :
    Bool :=
  groupName? pair == some name

/-- The last group that gives a name. -/
def lastGroup?
    (name : String)
    (pairs : List (Expression × Expression)) :
    Option (Expression × Expression) :=
  pairs.reverse.find? (givesName name)

/-- A block of groups, of which there is one, is the object of their members. -/
theorem ofExpression_groups
    (type : String)
    (arguments : List Expression)
    {pairs : List (Expression × Expression)}
    (nonempty : pairs ≠ []) :
    ofExpression (.creation type arguments (some (pairs.map Expression.group))) =
      ofEntries (pairs.filterMap groupMember?) := by
  let halves (pair : Expression × Expression) : Value × Value :=
    (ofExpression pair.1, ofExpression pair.2)
  have entries :
      ofEntryList (pairs.map Expression.group) =
        (pairs.map halves).map fun pair => .pair pair.1 pair.2 := by
    rw [ofEntryList_eq_map, List.map_map, List.map_map]
    rfl
  have filled : pairs.map halves ≠ [] := by
    simpa using nonempty
  rw [ofExpression, entries, ofBlock_pairs filled, List.filterMap_map]
  rfl

/-- The names of the members of groups are those that the groups give. -/
theorem memberNames_groups
    (pairs : List (Expression × Expression)) :
    memberNames (pairs.filterMap groupMember?) = pairs.filterMap groupName? := by
  rw [memberNames, List.map_filterMap]
  refine List.filterMap_congr fun pair _ => ?_
  rw [groupMember?, Option.map_map]
  exact Option.map_id'

/-- The first member under a name is that of the first group that gives it. -/
theorem lookup_groups
    (name : String)
    (pairs : List (Expression × Expression)) :
    (pairs.filterMap groupMember?).lookup name =
      (pairs.find? (givesName name)).map fun pair => (ofExpression pair.2).flattened := by
  induction pairs with
  | nil => rfl
  | cons pair pairs hypothesis =>
      cases given : groupName? pair with
      | none =>
          have nothing : groupMember? pair = none := by
            rw [groupMember?, given, Option.map_none]
          have passed : ¬ givesName name pair = true := by
            simp [givesName, given]
          rw [List.filterMap_cons_none nothing, List.find?_cons_of_neg passed, hypothesis]
      | some known =>
          have member : groupMember? pair = some (known, (ofExpression pair.2).flattened) := by
            rw [groupMember?, given, Option.map_some]
          rw [List.filterMap_cons_some member, lookup_cons_eq]
          by_cases same : name = known
          · have found : givesName name pair = true := by
              simp [givesName, given, same]
            rw [if_pos same, List.find?_cons_of_pos found, Option.map_some]
          · have passed : ¬ givesName name pair = true := by
              simpa [givesName, given] using Ne.symm same
            rw [if_neg same, List.find?_cons_of_neg passed, hypothesis]

/-- The last member under a name is that of the last group that gives it. -/
theorem lastUnder?_groups
    (name : String)
    (pairs : List (Expression × Expression)) :
    lastUnder? name (pairs.filterMap groupMember?) =
      (lastGroup? name pairs).map fun pair => (ofExpression pair.2).flattened := by
  rw [lastUnder?, ← List.filterMap_reverse, lookup_groups, lastGroup?]

end Value

namespace Members

open Value

/-- A map holds the texts of some groups. -/
structure HoldsGroups
    (members : Members Value)
    (pairs : List (Expression × Expression)) :
    Prop where
  /-- There are texts and nulls only. -/
  texts : ∀ member ∈ members.entries, member.2 = .null ∨ ∃ text, member.2 = .string text
  /-- The names stand in the order of the first groups that give them. -/
  names : members.names = (pairs.filterMap groupName?).eraseDups
  /-- A group gives the text of its first half as a name. -/
  named :
    ∀ pair ∈ pairs, ∀ name, groupName? pair = some name →
      KeptAs (ofExpression pair.1) (.string name)
  /-- It gives none only where the first half is null. -/
  unnamed : ∀ pair ∈ pairs, groupName? pair = none → ofExpression pair.1 = .null
  /-- A value comes from the last group that gives its name. -/
  values :
    ∀ name ∈ members.names, ∃ pair, lastGroup? name pairs = some pair ∧
      ∃ kept, members.get? name = some kept ∧ KeptAs (ofExpression pair.2) kept

/-- The map of the members of groups holds their texts. -/
theorem holdsGroups_ofList
    (pairs : List (Expression × Expression)) :
    (ofList (pairs.filterMap groupMember?)).HoldsGroups pairs where
  texts member listed := by
    obtain ⟨pair, _, gives⟩ := List.mem_filterMap.mp (mem_entries_ofList listed)
    obtain ⟨name, _, rfl⟩ := Option.map_eq_some_iff.mp gives
    exact (keptAs_flattened (ofExpression pair.2)).isText
  names := by
    rw [(holdsLatest_ofList _).names, memberNames_groups]
  named _ _ _ gives := keptAs_of_text? gives
  unnamed _ _ gives := eq_null_of_text? gives
  values name listed := by
    have value := (holdsLatest_ofList (pairs.filterMap groupMember?)).values name
    rw [lastUnder?_groups] at value
    have present := isSome_lookup_iff.mpr listed
    rw [← get?, value, Option.isSome_map] at present
    obtain ⟨pair, last⟩ := Option.isSome_iff_exists.mp present
    rw [last, Option.map_some] at value
    exact ⟨pair, last, _, value, keptAs_flattened (ofExpression pair.2)⟩

end Members

namespace Expression

/-- The numbers in what lies within an expression are among those in the expression. -/
theorem WritesNumbers.of_isWithin
    {inner whole : Expression}
    (writes : whole.WritesNumbers)
    (within : inner.IsWithin whole) :
    inner.WritesNumbers :=
  fun number inInner => writes number (inInner.trans within)

end Expression

open Value

/--
A block of groups of two stands for an object of texts and nulls, with a name
for every text of a first half, and with what is kept of the second half of the
last group of that name.  Whatever is read from tokens holds real numbers of JSON
only, so that the lists and objects in it can be decoded from their texts.
-/
theorem groupedPairs_flattened :
    (∀ (type : String) (arguments : List Expression) (pairs : List (Expression × Expression)),
      pairs ≠ [] →
        ∃ members : Members Value,
          ofExpression (.creation type arguments (some (pairs.map Expression.group))) =
            .object members.entries ∧
          members.HoldsGroups pairs) ∧
    ∀ (room : Nat) (tokens : List Token) (expression : Expression),
      expression.IsWithin ((expressionReader room).read tokens).1 →
        (ofExpression expression).IsJson := by
  constructor
  · intro type arguments pairs nonempty
    exact ⟨_, ofExpression_groups type arguments nonempty, Members.holdsGroups_ofList pairs⟩
  · intro room tokens expression within
    have writes := (writesNumbers_read room tokens).of_isWithin within
    exact (isCanonical_ofExpression writes).1.isJson

/-- Groups with a structured value, without a name, and with one name for two kinds of keys. -/
def ledgerPairs : List (Expression × Expression) :=
  let amount (value : Literal) : Expression :=
    .creation "Item" [] (some [.assignment "A" true (.literal value)])
  [
    (.literal (.number (.integer 1)), amount (.number (.real "1.50"))),
    (.literal .null, .literal (.string "lost")),
    (.literal (.bool true), .literal (.number (.integer 2))),
    (.literal (.string "1"), amount .null)
  ]

/-- The tokens of a real number. -/
def amountTokens : List Token :=
  [⟨.number "1.50m", [], "1.50m".toList⟩]

/-- The four groups make two members, and the real number that is read is one of JSON. -/
theorem groupedPairs_flattened_ledger :
    ledgerPairs ≠ [] ∧
      (∃ members : Members Value,
        ofExpression (.creation "Ledger" [] (some (ledgerPairs.map Expression.group))) =
            .object members.entries ∧
          members.HoldsGroups ledgerPairs ∧
          members.names = ["1", "True"]) ∧
      ∃ amount : Expression,
        amount.IsWithin ((expressionReader 1).read amountTokens).1 ∧
          (ofExpression amount).IsJson := by
  obtain ⟨groups, reading⟩ := groupedPairs_flattened
  obtain ⟨members, value, holds⟩ := groups "Ledger" [] ledgerPairs (by simp [ledgerPairs])
  have names : (ledgerPairs.filterMap groupName?).eraseDups = ["1", "True"] := by
    decide +kernel
  -- The expression stays unknown, as nothing may evaluate the bounds of its number.
  obtain ⟨amount, isRead⟩ :
      ∃ amount, amount = ((expressionReader 1).read amountTokens).1 :=
    ⟨_, rfl⟩
  have within : amount.IsWithin ((expressionReader 1).read amountTokens).1 :=
    isRead ▸ Relation.ReflTransGen.refl
  exact ⟨by simp [ledgerPairs], ⟨members, value, holds, holds.names.trans names⟩,
    amount, within, reading 1 amountTokens amount within⟩

end InitializerJson
