import InitializerJson.Value.OfExpression

namespace InitializerJson

/-!
# Blocks of one shape

A block whose entries are all plain values stands for their list.  A block of
assignments stands for an object, which keeps members under different names as
they are written.  Whatever the value of a block is, its parts come from the
entries.
-/

/-- What is read off each of some written entries is read off all of them in their order. -/
theorem mapM_map_eq_some_map
    {α β γ : Type}
    {read : β → Option γ}
    {write : α → β}
    {view : α → γ}
    {values : List α}
    (reads : ∀ value ∈ values, read (write value) = some (view value)) :
    (values.map write).mapM read = some (values.map view) := by
  induction values with
  | nil => rfl
  | cons value values hypothesis =>
      rw [List.forall_mem_cons] at reads
      rw [List.map_cons, List.mapM_cons, reads.1, hypothesis reads.2]
      rfl

/-- Values that are read back one by one are read back in their order. -/
theorem mapM_map_eq_some
    {α β : Type}
    {read : β → Option α}
    {write : α → β}
    (reads : ∀ value, read (write value) = some value)
    (values : List α) :
    (values.map write).mapM read = some values := by
  have readBack : (values.map write).mapM read = some (values.map id) :=
    mapM_map_eq_some_map fun value _ => reads value
  rwa [List.map_id] at readBack

/-- What succeeds on each of some items succeeds on all of them. -/
theorem mapM_eq_some_map
    {α β : Type}
    {attempt : α → Option β}
    {view : α → β}
    {items : List α}
    (succeeds : ∀ item ∈ items, attempt item = some (view item)) :
    items.mapM attempt = some (items.map view) := by
  have succeeded : (items.map id).mapM attempt = some (items.map view) :=
    mapM_map_eq_some_map succeeds
  rwa [List.map_id] at succeeded

/-- What fails on one of some items fails on all of them. -/
theorem mapM_eq_none_of_mem
    {α β : Type}
    {attempt : α → Option β}
    {items : List α}
    {item : α}
    (member : item ∈ items)
    (fails : attempt item = none) :
    items.mapM attempt = none := by
  induction items with
  | nil => cases member
  | cons first others hypothesis =>
      rw [List.mapM_cons]
      rcases List.mem_cons.mp member with rfl | behind
      · rw [fails]
        rfl
      · rw [hypothesis behind]
        cases attempt first <;> rfl

/-- The results of a function on a list come from its items. -/
theorem exists_of_mapM
    {α β : Type}
    {view : α → Option β}
    {items : List α}
    {results : List β}
    (found : items.mapM view = some results)
    {result : β}
    (member : result ∈ results) :
    ∃ item ∈ items, view item = some result := by
  induction items generalizing results with
  | nil =>
      simp only [List.mapM_nil, Option.pure_def, Option.some.injEq] at found
      subst found
      cases member
  | cons item items hypothesis =>
      simp only [List.mapM_cons, Option.pure_def, Option.bind_eq_bind, Option.bind_eq_some_iff,
        Option.some.injEq] at found
      obtain ⟨first, isFirst, others, areOthers, rfl⟩ := found
      rcases List.mem_cons.mp member with rfl | behind
      · exact ⟨item, List.mem_cons_self, isFirst⟩
      · obtain ⟨origin, inItems, isResult⟩ := hypothesis areOthers behind
        exact ⟨origin, List.mem_cons_of_mem item inItems, isResult⟩

namespace Members

variable
  {α : Type}

/-- An entry that was put is the new one or was there before. -/
theorem mem_putEntry
    {name : String}
    {value : α}
    {entries : List (String × α)}
    {entry : String × α}
    (member : entry ∈ putEntry name value entries) :
    entry = (name, value) ∨ entry ∈ entries := by
  induction entries with
  | nil => exact .inl (List.mem_singleton.mp member)
  | cons first others hypothesis =>
      rw [putEntry] at member
      split at member
      · rcases List.mem_cons.mp member with new | old
        · exact .inl new
        · exact .inr (List.mem_cons_of_mem first old)
      · rcases List.mem_cons.mp member with rfl | behind
        · exact .inr List.mem_cons_self
        · exact (hypothesis behind).imp_right (List.mem_cons_of_mem first)

/-- A map of inserted entries holds none but these and those that it held. -/
theorem mem_entries_insertAll
    {members : Members α}
    {entries : List (String × α)}
    {entry : String × α}
    (member : entry ∈ (members.insertAll entries).entries) :
    entry ∈ members.entries ∨ entry ∈ entries := by
  induction entries generalizing members with
  | nil => exact .inl member
  | cons first others hypothesis =>
      rcases hypothesis member with inFirst | behind
      · rw [entries_insert] at inFirst
        rcases mem_putEntry inFirst with rfl | before
        · exact .inr List.mem_cons_self
        · exact .inl before
      · exact .inr (List.mem_cons_of_mem first behind)

/-- A map of entries holds none but these. -/
theorem mem_entries_ofList
    {entries : List (String × α)}
    {entry : String × α}
    (member : entry ∈ (ofList entries).entries) :
    entry ∈ entries := by
  rcases mem_entries_insertAll member with nothing | inEntries
  · cases nothing
  · exact inEntries

end Members

namespace Value

/-- The values of expressions are those of each of them. -/
theorem ofExpressions_eq_map
    (expressions : List Expression) :
    ofExpressions expressions = expressions.map ofExpression := by
  induction expressions with
  | nil => rfl
  | cons expression others hypothesis => rw [ofExpressions, hypothesis, List.map_cons]

/-- Entries contribute one by one. -/
theorem ofEntryList_eq_map
    (entries : List Expression) :
    ofEntryList entries = entries.map ofEntry := by
  induction entries with
  | nil => rfl
  | cons entry entries hypothesis => rw [ofEntryList, hypothesis, List.map_cons]

/-- A block of plain values is their list. -/
theorem ofBlock_plain
    (values : List Value) :
    ofBlock (values.map Entry.plain) = list values := by
  have reads : ∀ value, (Entry.plain value).plain? = some value :=
    fun _ => rfl
  rw [ofBlock, mapM_map_eq_some reads]

/-- The object of members under different names has these members. -/
theorem ofEntries_of_nodup
    {members : List (String × Value)}
    (nodup : (memberNames members).Nodup) :
    ofEntries members = object members := by
  rw [ofEntries, ofMembers, Members.entries_ofList nodup]

/-- A block of assignments, of which there is one, is the object of its members. -/
theorem ofBlock_keyed
    {members : List (String × Value)}
    (nonempty : members ≠ []) :
    ofBlock (members.map fun member => .keyed member.1 member.2) = ofEntries members := by
  have notPlain :
      (members.map fun member => Entry.keyed member.1 member.2).mapM Entry.plain? = none := by
    cases members with
    | nil => exact absurd rfl nonempty
    | cons member members => rfl
  have reads :
      ∀ member : String × Value, (Entry.keyed member.1 member.2).keyed? = some member :=
    fun _ => rfl
  rw [ofBlock, notPlain]
  simp only [mapM_map_eq_some reads]

/-- A block of groups of two, of which there is one, is the object of what they flatten to. -/
theorem ofBlock_pairs
    {pairs : List (Value × Value)}
    (nonempty : pairs ≠ []) :
    ofBlock (pairs.map fun pair => .pair pair.1 pair.2) = ofEntries (pairs.filterMap flatten?) := by
  obtain ⟨first, others, rfl⟩ := List.exists_cons_of_ne_nil nonempty
  have notPlain :
      ((first :: others).map fun pair => Entry.pair pair.1 pair.2).mapM Entry.plain? = none :=
    rfl
  have notKeyed :
      ((first :: others).map fun pair => Entry.pair pair.1 pair.2).mapM Entry.keyed? = none :=
    rfl
  have reads : ∀ pair : Value × Value, (Entry.pair pair.1 pair.2).pair? = some pair :=
    fun _ => rfl
  rw [ofBlock, notPlain]
  simp only [notKeyed, mapM_map_eq_some reads]

/-- The forms of the value of a block, with the entries that its parts come from. -/
inductive BlockForm
    (entries : List Entry) :
    Value → Prop where
  | list
      {values : List Value}
      (given : ∀ value ∈ values, .plain value ∈ entries) :
      BlockForm entries (.list values)
  | keyed
      {members : List (String × Value)}
      (given : ∀ member ∈ members, .keyed member.1 member.2 ∈ entries) :
      BlockForm entries (ofEntries members)
  | pairs
      {members : List (String × Value)}
      (given : ∀ member ∈ members,
        ∃ pair : Value × Value, .pair pair.1 pair.2 ∈ entries ∧ flatten? pair = some member) :
      BlockForm entries (ofEntries members)
  | null :
      BlockForm entries .null

/-- The object of what assignments contribute comes from these assignments. -/
theorem blockForm_keyed
    {entries : List Entry}
    {members : List (String × Value)}
    (found : ∀ member ∈ members, ∃ entry ∈ entries, entry.keyed? = some member) :
    BlockForm entries (ofEntries members) := by
  refine .keyed fun member inMembers => ?_
  obtain ⟨entry, inEntries, shape⟩ := found member inMembers
  cases entry with
  | keyed target value =>
      cases shape
      exact inEntries
  | plain | pair | other => cases shape

/-- The value of a block has one of the forms. -/
theorem blockForm_ofBlock
    (entries : List Entry) :
    BlockForm entries (ofBlock entries) := by
  unfold ofBlock
  split
  · next values found =>
      refine .list fun value member => ?_
      obtain ⟨entry, inEntries, shape⟩ := exists_of_mapM found member
      cases entry with
      | plain known =>
          cases shape
          exact inEntries
      | keyed | pair | other => cases shape
  split
  · next members found =>
      exact blockForm_keyed fun _ inMembers => exists_of_mapM found inMembers
  split
  · next pairs found =>
      refine .pairs fun member inMembers => ?_
      obtain ⟨pair, inPairs, flattened⟩ := List.mem_filterMap.mp inMembers
      obtain ⟨entry, inEntries, shape⟩ := exists_of_mapM found inPairs
      cases entry with
      | pair key value =>
          cases shape
          exact ⟨(key, value), inEntries, flattened⟩
      | plain | keyed | other => cases shape
  · exact .null

/-- The value of a block that must consist of assignments has one of the forms. -/
theorem blockForm_ofKeyedBlock
    (entries : List Entry) :
    BlockForm entries (ofKeyedBlock entries) := by
  unfold ofKeyedBlock
  split
  · exact .null
  split
  · next members found =>
      exact blockForm_keyed fun _ inMembers => exists_of_mapM found inMembers
  · exact .null

/-- The object of a block comes from its assignments. -/
theorem blockForm_ofRoot
    (block : List Expression) :
    BlockForm (ofEntryList block) (ofRoot block) :=
  blockForm_keyed fun _ inMembers => List.mem_filterMap.mp inMembers

end Value

end InitializerJson
