import InitializerJson.Proofs.Value.BlockShape
import Mathlib.Data.Finset.Card

namespace InitializerJson

/-!
# Maps keep the first order and the last values

However many entries are inserted, and however often their names repeat, a map
lists each name once, where it was first given, and holds the value that was
given under it last.  One insertion changes the entry under its own name or adds
one at the end, and answers the value that it replaces.

The object of a root block is such a map of the assignments in the block,
whatever stands between them.
-/

/-- The last value that some entries give under a name. -/
def lastUnder?
    {α : Type}
    (name : String)
    (entries : List (String × α)) :
    Option α :=
  entries.reverse.lookup name

/-- One more entry is the last one under its own name only. -/
theorem lastUnder?_concat
    {α : Type}
    (name : String)
    (entries : List (String × α))
    (entry : String × α) :
    lastUnder? name (entries ++ [entry]) =
      if name = entry.1 then some entry.2 else lastUnder? name entries := by
  rw [lastUnder?, List.reverse_concat, lookup_cons_eq, lastUnder?]

/-- One more item is another first occurrence only where it is new. -/
theorem eraseDups_concat
    (names : List String)
    (name : String) :
    (names ++ [name]).eraseDups =
      if name ∈ names then names.eraseDups else names.eraseDups ++ [name] := by
  rw [List.eraseDups_append]
  by_cases known : name ∈ names
  · simp [List.removeAll, known]
  · simp [List.removeAll, known, List.eraseDups_cons]

/-! ## One insertion -/

/-- Where names differ, a known name keeps its place, and its entry alone is replaced. -/
theorem putEntry_of_mem
    {α : Type}
    {name : String}
    {entries : List (String × α)}
    (nodup : (memberNames entries).Nodup)
    (known : name ∈ memberNames entries)
    (value : α) :
    putEntry name value entries =
      entries.map fun entry => if entry.1 = name then (name, value) else entry := by
  induction entries with
  | nil => cases known
  | cons entry entries hypothesis =>
      rw [memberNames, List.map_cons, List.nodup_cons] at nodup
      rw [putEntry, List.map_cons]
      by_cases here : entry.1 = name
      · have others :
            entries.map (fun entry => if entry.1 = name then (name, value) else entry) =
              entries.map id :=
          List.map_congr_left fun other member =>
            if_neg fun same =>
              nodup.1 (List.mem_map.mpr ⟨other, member, same.trans here.symm⟩)
        rw [if_pos here, if_pos here, others, List.map_id]
      · have behind : name ∈ memberNames entries :=
          (List.mem_cons.mp known).resolve_left (Ne.symm here)
        rw [if_neg here, if_neg here, hypothesis nodup.2 behind]

/-- A name is among those of some entries exactly when it is found there. -/
theorem isSome_lookup_iff
    {α : Type}
    {name : String}
    {entries : List (String × α)} :
    (entries.lookup name).isSome = true ↔ name ∈ memberNames entries := by
  rw [List.lookup_isSome_iff, memberNames, List.mem_map]
  simp only [beq_iff_eq, @eq_comm _ name]

namespace Members

/-- What one insertion into a map answers, and what it leaves. -/
structure Exchanges
    {α : Type}
    (before : Members α)
    (name : String)
    (value : α)
    (result : Option α × Members α) :
    Prop where
  /-- The answer is the value that the name had. -/
  answer : result.1 = before.get? name
  answers : result.1.isSome = true ↔ name ∈ before.names
  /-- A known name keeps its place, and all other entries stay as they are. -/
  replaced :
    name ∈ before.names →
    result.2.entries =
      before.entries.map fun entry => if entry.1 = name then (name, value) else entry
  /-- A new name comes last. -/
  appended :
    name ∉ before.names →
    result.2.entries = before.entries ++ [(name, value)]
  values :
    ∀ other,
      result.2.get? other = if other = name then some value else before.get? other

/-- Every insertion into every map answers the value before and changes nothing else. -/
theorem exchanges_exchange
    {α : Type}
    (members : Members α)
    (name : String)
    (value : α) :
    members.Exchanges name value (members.exchange name value) where
  answer := members.fst_exchange name value
  answers := by
    rw [fst_exchange]
    exact isSome_lookup_iff
  replaced known :=
    (members.entries_insert name value).trans (putEntry_of_mem members.nodup known value)
  appended absent :=
    (members.entries_insert name value).trans (putEntry_of_notMem absent value)
  values other := by
    have entries : (members.exchange name value).2.entries = putEntry name value members.entries :=
      members.entries_insert name value
    rw [get?, entries, lookup_putEntry, get?]

/-! ## Runs of insertions -/

/-- A map lists the names of some entries in their first order, with their last values. -/
structure HoldsLatest
    {α : Type}
    (members : Members α)
    (entries : List (String × α)) :
    Prop where
  nodup : members.names.Nodup
  /-- The names stand in the order of their first entries. -/
  names : members.names = (memberNames entries).eraseDups
  values : ∀ name, members.get? name = lastUnder? name entries
  /-- There are as many members as different names. -/
  size : members.size = (memberNames entries).toFinset.card

section HoldsLatest

variable
  {α : Type}
  {members : Members α}
  {entries : List (String × α)}

/-- A map with the first names and the last values has as many members as names. -/
theorem holdsLatest_of_names
    (names : members.names = (memberNames entries).eraseDups)
    (values : ∀ name, members.get? name = lastUnder? name entries) :
    members.HoldsLatest entries where
  nodup := members.nodup
  names := names
  values := values
  size := by
    have same : (memberNames entries).toFinset = members.names.toFinset := by
      ext name
      rw [names, List.mem_toFinset, List.mem_toFinset, List.mem_eraseDups]
    have length : members.names.toFinset.card = members.names.length :=
      List.toFinset_card_of_nodup members.nodup
    rw [same, length, Members.names, memberNames, List.length_map, Members.size]

/-- One more insertion keeps the first names and the last values. -/
theorem HoldsLatest.insert
    (holds : members.HoldsLatest entries)
    (entry : String × α) :
    (members.insert entry.1 entry.2).HoldsLatest (entries ++ [entry]) := by
  have isKnown : entry.1 ∈ members.names ↔ entry.1 ∈ memberNames entries := by
    rw [holds.names, List.mem_eraseDups]
  apply holdsLatest_of_names
  · have names : (members.insert entry.1 entry.2).names =
        if entry.1 ∈ members.names then members.names else members.names ++ [entry.1] := by
      rw [Members.names, entries_insert, memberNames_putEntry]
      rfl
    rw [names, memberNames, List.map_append, List.map_singleton, ← memberNames, eraseDups_concat,
      holds.names]
    simp only [List.mem_eraseDups]
  · intro name
    have value := (members.exchanges_exchange entry.1 entry.2).values name
    rw [lastUnder?_concat, ← holds.values]
    exact value

/-- Any number of further insertions keep the first names and the last values. -/
theorem HoldsLatest.insertAll
    (holds : members.HoldsLatest entries)
    (inserted : List (String × α)) :
    (members.insertAll inserted).HoldsLatest (entries ++ inserted) := by
  induction inserted generalizing members entries with
  | nil =>
      rw [List.append_nil]
      exact holds
  | cons entry inserted hypothesis =>
      have further := hypothesis (holds.insert entry)
      rw [List.append_assoc] at further
      exact further

end HoldsLatest

/-- The empty map holds no entries. -/
theorem holdsLatest_empty
    {α : Type} :
    (empty : Members α).HoldsLatest [] :=
  holdsLatest_of_names rfl fun _ => rfl

/-- The map of some entries has their names in the first order, with the last values. -/
theorem holdsLatest_ofList
    {α : Type}
    (entries : List (String × α)) :
    (ofList entries).HoldsLatest entries :=
  holdsLatest_empty.insertAll entries

end Members

/-! ## Root blocks -/

namespace Value

/-- The member that an expression contributes to an object, when it is an assignment. -/
def assigned? : Expression → Option (String × Value)
  | .assignment target _ value => some (target, ofExpression value)
  | _ => none

/-- An entry is keyed exactly when its expression is an assignment. -/
theorem keyed?_ofEntry
    (entry : Expression) :
    (ofEntry entry).keyed? = assigned? entry := by
  cases entry with
  | creation type arguments block | targetTypedCreation arguments block => cases block <;> rfl
  | initializer entries => rcases entries with _ | ⟨key, _ | ⟨value, _ | ⟨third, others⟩⟩⟩ <;> rfl
  | literal | invocation | assignment | name | index | unsupported => rfl

/-- The object of a root block has the members that its assignments contribute. -/
theorem ofRoot_eq
    (block : List Expression) :
    ofRoot block = ofEntries (block.filterMap assigned?) := by
  rw [ofRoot, ofEntryList_eq_map, List.filterMap_map]
  exact congrArg ofEntries (List.filterMap_congr fun entry _ => keyed?_ofEntry entry)

end Value

/--
Collected or inserted one by one, any entries make a map of their names in the
first order with their last values.  Each insertion answers the value before it
and changes no other entry.  The object of a root block is the map of its
assignments.
-/
theorem members_holdLatest
    {α : Type} :
    (∀ collected inserted : List (String × α),
      ((Members.ofList collected).insertAll inserted).HoldsLatest (collected ++ inserted) ∧
        Members.ofList (collected ++ inserted) =
          inserted.foldl
            (fun members entry => (members.exchange entry.1 entry.2).2)
            (Members.ofList collected)) ∧
    (∀ (members : Members α) (name : String) (value : α),
      members.Exchanges name value (members.exchange name value)) ∧
    ∀ block : List Expression,
      ∃ members : Members Value,
        Value.ofRoot block = .object members.entries ∧
          members.HoldsLatest (block.filterMap Value.assigned?) := by
  refine ⟨fun collected inserted => ⟨?_, ?_⟩, fun members name value => ?_, fun block => ?_⟩
  · exact (Members.holdsLatest_ofList collected).insertAll inserted
  · exact List.foldl_append
  · exact members.exchanges_exchange name value
  · exact ⟨_, Value.ofRoot_eq block, Members.holdsLatest_ofList _⟩

end InitializerJson
