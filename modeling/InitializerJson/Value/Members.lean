namespace InitializerJson

/-!
# Members in insertion order

A finite map from names to values that remembers the order in which names were
first inserted.  Inserting under a name that is present replaces the value and
keeps the place.  No name occurs twice, by the type.
-/

/-- The names of a list of members. -/
def memberNames
    {κ α : Type}
    (entries : List (κ × α)) :
    List κ :=
  entries.map Prod.fst

/-- Entries with a value put under a name: in its place, or at the end. -/
def putEntry
    {κ α : Type}
    [DecidableEq κ]
    (name : κ)
    (value : α) :
    List (κ × α) → List (κ × α)
  | [] => [(name, value)]
  | entry :: entries =>
      if entry.1 = name then
        (name, value) :: entries
      else
        entry :: putEntry name value entries

/-- Putting an entry leaves the names as they are, or adds its own at the end. -/
theorem memberNames_putEntry
    {κ α : Type}
    [DecidableEq κ]
    (name : κ)
    (value : α)
    (entries : List (κ × α)) :
    memberNames (putEntry name value entries) =
      if name ∈ memberNames entries then
        memberNames entries
      else
        memberNames entries ++ [name] := by
  induction entries with
  | nil => simp [putEntry, memberNames]
  | cons entry entries hypothesis =>
      simp only [memberNames] at hypothesis
      by_cases same : entry.1 = name
      · simp [putEntry, memberNames, same]
      · by_cases present : name ∈ entries.map Prod.fst
        · simp [putEntry, memberNames, same, hypothesis, present]
        · simp [putEntry, memberNames, same, Ne.symm same, hypothesis, present]

/-- Putting an entry adds no name but its own. -/
theorem mem_memberNames_putEntry
    {κ α : Type}
    [DecidableEq κ]
    {name other : κ}
    {value : α}
    {entries : List (κ × α)} :
    other ∈ memberNames (putEntry name value entries) ↔
      other ∈ memberNames entries ∨ other = name := by
  rw [memberNames_putEntry]
  split
  · next known =>
      constructor
      · exact .inl
      · rintro (before | rfl)
        · exact before
        · exact known
  · rw [List.mem_append, List.mem_singleton]

/-- A look-up finds the first entry under its own name and passes it under others. -/
theorem lookup_cons_eq
    {κ α : Type}
    [BEq κ]
    [LawfulBEq κ]
    [DecidableEq κ]
    (name : κ)
    (entry : κ × α)
    (entries : List (κ × α)) :
    (entry :: entries).lookup name =
      if name = entry.1 then some entry.2 else entries.lookup name := by
  rw [List.lookup_cons]
  by_cases same : name = entry.1
  · simp [same]
  · rw [if_neg same, beq_eq_false_iff_ne.mpr same]

/-- An entry is found under its own name, and the others as before. -/
theorem lookup_putEntry
    {κ α : Type}
    [BEq κ]
    [LawfulBEq κ]
    [DecidableEq κ]
    (name other : κ)
    (value : α)
    (entries : List (κ × α)) :
    (putEntry name value entries).lookup other =
      if other = name then some value else entries.lookup other := by
  induction entries with
  | nil => rw [putEntry, lookup_cons_eq]
  | cons entry entries hypothesis =>
      by_cases here : entry.1 = name
      · subst here
        rw [putEntry, if_pos rfl, lookup_cons_eq, lookup_cons_eq]
        split <;> rfl
      · rw [putEntry, if_neg here, lookup_cons_eq, lookup_cons_eq, hypothesis]
        by_cases first : other = entry.1
        · rw [if_pos first, if_pos first, if_neg fun same => here (first.symm.trans same)]
        · rw [if_neg first, if_neg first]

/-- An entry under a new name is put at the end. -/
theorem putEntry_of_notMem
    {κ α : Type}
    [DecidableEq κ]
    {name : κ}
    {entries : List (κ × α)}
    (absent : name ∉ memberNames entries)
    (value : α) :
    putEntry name value entries = entries ++ [(name, value)] := by
  induction entries with
  | nil => rfl
  | cons entry entries hypothesis =>
      rw [memberNames, List.map_cons, List.mem_cons, not_or] at absent
      rw [putEntry, if_neg (Ne.symm absent.1), hypothesis absent.2, List.cons_append]

/--
Entries with a value put under a name, in its place or at the end, behind the
value that stood there before.
-/
def exchangeEntry
    {κ α : Type}
    [DecidableEq κ]
    (name : κ)
    (value : α) :
    List (κ × α) → Option α × List (κ × α)
  | [] => (none, [(name, value)])
  | entry :: entries =>
      if entry.1 = name then
        (some entry.2, (name, value) :: entries)
      else
        let changed := exchangeEntry name value entries
        (changed.1, entry :: changed.2)

/-- An exchange answers the first value under the name, and puts the new one. -/
theorem exchangeEntry_eq
    {κ α : Type}
    [DecidableEq κ]
    (name : κ)
    (value : α)
    (entries : List (κ × α)) :
    exchangeEntry name value entries = (entries.lookup name, putEntry name value entries) := by
  induction entries with
  | nil => rfl
  | cons entry entries hypothesis =>
      obtain ⟨known, old⟩ := entry
      by_cases same : known = name
      · subst same
        simp [exchangeEntry, putEntry]
      · have other : (name == known) = false := by
          simpa using Ne.symm same
        simp only [exchangeEntry, putEntry, if_neg same, hypothesis, List.lookup_cons, other]

/-- A map from names to values in the order of first insertion. -/
structure Members (α : Type) where
  entries : List (String × α)
  nodup : (memberNames entries).Nodup

namespace Members

variable {α : Type}

/-- The map without members. -/
def empty : Members α where
  entries :=
    []
  nodup :=
    List.nodup_nil

/-- The value under a name, if there is one, and the map with another value there. -/
def exchange
    (members : Members α)
    (name : String)
    (value : α) :
    Option α × Members α :=
  let changed := exchangeEntry name value members.entries
  (changed.1,
    {
      entries :=
        changed.2
      nodup := by
        simp only [changed, exchangeEntry_eq, memberNames_putEntry]
        split
        · exact members.nodup
        · next absent =>
            exact List.nodup_append.mpr
              ⟨members.nodup, by simp, by grind⟩
    })

/-- The map with a value under a name. -/
def insert
    (members : Members α)
    (name : String)
    (value : α) :
    Members α :=
  (members.exchange name value).2

/-- Inserting puts an entry. -/
theorem entries_insert
    (members : Members α)
    (name : String)
    (value : α) :
    (members.insert name value).entries = putEntry name value members.entries :=
  congrArg Prod.snd (exchangeEntry_eq name value members.entries)

/-- The value under a name. -/
def get?
    (members : Members α)
    (name : String) :
    Option α :=
  members.entries.lookup name

/-- An exchange answers the value under the name before it. -/
theorem fst_exchange
    (members : Members α)
    (name : String)
    (value : α) :
    (members.exchange name value).1 = members.get? name :=
  congrArg Prod.fst (exchangeEntry_eq name value members.entries)

/-- The names in order of first insertion. -/
def names
    (members : Members α) :
    List String :=
  memberNames members.entries

/-- The number of members. -/
def size
    (members : Members α) :
    Nat :=
  members.entries.length

/-- Whether there is no member. -/
def isEmpty
    (members : Members α) :
    Bool :=
  members.entries.isEmpty

/-- The map that arises by inserting some entries one by one. -/
def insertAll
    (members : Members α)
    (entries : List (String × α)) :
    Members α :=
  entries.foldl (fun known entry => known.insert entry.1 entry.2) members

/-- The map of some entries, of which later ones replace earlier ones. -/
def ofList
    (entries : List (String × α)) :
    Members α :=
  empty.insertAll entries

/-- Entries under new names, each given once, are put at the end in their order. -/
theorem entries_insertAll
    {members : Members α}
    {entries : List (String × α)}
    (nodup : (members.names ++ memberNames entries).Nodup) :
    (members.insertAll entries).entries = members.entries ++ entries := by
  induction entries generalizing members with
  | nil => simp [insertAll]
  | cons entry entries hypothesis =>
      rw [memberNames, List.map_cons, List.append_cons] at nodup
      have absent : entry.1 ∉ memberNames members.entries := by
        intro present
        exact (List.nodup_append.mp (List.nodup_append.mp nodup).1).2.2 entry.1 present
          entry.1 (by simp) rfl
      have inserted : (members.insert entry.1 entry.2).entries = members.entries ++ [entry] := by
        rw [entries_insert, putEntry_of_notMem absent]
      have names : (members.insert entry.1 entry.2).names = members.names ++ [entry.1] := by
        simp [Members.names, inserted, memberNames]
      rw [← names] at nodup
      have rest := hypothesis nodup
      rw [insertAll, List.foldl_cons, ← insertAll, rest, inserted, List.append_assoc]
      rfl

/-- The map of entries under different names keeps them as they are. -/
theorem entries_ofList
    {entries : List (String × α)}
    (nodup : (memberNames entries).Nodup) :
    (ofList entries).entries = entries :=
  entries_insertAll nodup

end Members

end InitializerJson
