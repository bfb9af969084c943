import InitializerJson.Extraction.Host
import Mathlib.Data.List.Infix

namespace InitializerJson

/-!
# What writing a file changes

A text that is written to a path replaces the content of one file or makes one.  The location
of that file is looked for before it is opened, so that nothing changes if there is none.  All
other files and all directories stay as they are, whether the whole text is written or the write
breaks off, and a text that was written as a whole is read from its path.
-/

namespace FileSystem

/-! ## Directories -/

/-- The directories are the root, those that stand by themselves and those around files. -/
theorem isDirectory_iff
    {system : FileSystem}
    {location : List String} :
    system.isDirectory location = true ↔
      location = [] ∨
        (∃ directory ∈ system.directories, location <+: directory) ∨
        ∃ file ∈ memberNames system.files,
          location <+: file ∧ location.length < file.length := by
  simp [isDirectory, memberNames, or_assoc]

/-- On the way to a directory there are directories. -/
theorem isDirectory_of_prefix
    {system : FileSystem}
    {outer inner : List String}
    (around : outer <+: inner)
    (inside : system.isDirectory inner = true) :
    system.isDirectory outer = true := by
  rw [isDirectory_iff] at inside ⊢
  rcases inside with rfl | ⟨directory, member, behind⟩ | ⟨file, member, behind, shorter⟩
  · exact .inl (List.prefix_nil.mp around)
  · exact .inr (.inl ⟨directory, member, around.trans behind⟩)
  · exact .inr (.inr ⟨file, member, around.trans behind,
      Nat.lt_of_le_of_lt around.length_le shorter⟩)

/-! ## One file -/

/-- The bytes of a text are read as the text. -/
theorem fromUTF8?_toUTF8
    (text : String) :
    String.fromUTF8? text.toUTF8 = some text := by
  rw [String.fromUTF8?, String.toUTF8_eq_toByteArray, dif_pos text.isValidUTF8]
  rfl

/-- The file at the location holds the content, and any other file is as it was. -/
theorem lookup_withFile
    (system : FileSystem)
    (location other : List String)
    (content : ByteArray) :
    (system.withFile location content).files.lookup other =
      if other = location then some content else system.files.lookup other :=
  lookup_putEntry location other content system.files

/-- A file in a directory adds no directory. -/
theorem isDirectory_withFile
    {system : FileSystem}
    {directory : List String}
    (isDirectory : system.isDirectory directory = true)
    (name : String)
    (content : ByteArray)
    (location : List String) :
    (system.withFile (directory ++ [name]) content).isDirectory location =
      system.isDirectory location := by
  rw [Bool.eq_iff_iff, isDirectory_iff]
  constructor
  · rintro (root | own | ⟨file, member, around, shorter⟩)
    · exact isDirectory_iff.mpr (.inl root)
    · exact isDirectory_iff.mpr (.inr (.inl own))
    · rcases mem_memberNames_putEntry.mp member with before | rfl
      · exact isDirectory_iff.mpr (.inr (.inr ⟨file, before, around, shorter⟩))
      · -- Whatever lies on the way to the new file lies on the way to its directory.
        rcases List.prefix_concat_iff.mp around with rfl | outer
        · exact absurd shorter (Nat.lt_irrefl _)
        · exact isDirectory_of_prefix outer isDirectory
  · intro before
    rcases isDirectory_iff.mp before with root | own | ⟨file, member, around⟩
    · exact .inl root
    · exact .inr (.inl own)
    · exact .inr (.inr ⟨file, mem_memberNames_putEntry.mpr (.inl member), around⟩)

/-! ## Paths -/

/-- Where the directories are the same, names that lead somewhere lead there again. -/
theorem walk_eq_ok_of_sameDirectories
    {system other : FileSystem}
    (same : ∀ location, other.isDirectory location = system.isDirectory location)
    {start finish : List String}
    {names : List String}
    (leads : system.walk start names = .ok finish) :
    other.walk start names = .ok finish := by
  fun_induction system.walk start names with
  | case1 => exact leads
  | case2 location name names inside stays hypothesis =>
      rw [walk, if_pos ((same location).trans inside), if_pos stays]
      exact hypothesis leads
  | case3 location names inside stays hypothesis =>
      rw [walk, if_pos ((same location).trans inside), if_neg stays, if_pos rfl]
      exact hypothesis leads
  | case4 location name names inside stays notUp hypothesis =>
      rw [walk, if_pos ((same location).trans inside), if_neg stays, if_neg notUp]
      exact hypothesis leads
  | case5 => cases leads

/-- Names that lead on from where others lead lead there from the start. -/
theorem walk_append
    {system : FileSystem}
    {start middle : List String}
    {front : List String}
    (leads : system.walk start front = .ok middle)
    (back : List String) :
    system.walk start (front ++ back) = system.walk middle back := by
  fun_induction system.walk start front with
  | case1 =>
      cases leads
      rfl
  | case2 location name names inside stays hypothesis =>
      rw [List.cons_append, walk, if_pos inside, if_pos stays]
      exact hypothesis leads
  | case3 location names inside stays hypothesis =>
      rw [List.cons_append, walk, if_pos inside, if_neg stays, if_pos rfl]
      exact hypothesis leads
  | case4 location name names inside stays notUp hypothesis =>
      rw [List.cons_append, walk, if_pos inside, if_neg stays, if_neg notUp]
      exact hypothesis leads
  | case5 => cases leads

/-- Names of which none is left away at the end are whole, and the last one is not empty. -/
theorem solid_of_length_le
    {names : List String}
    (whole : names.length ≤ (names.reverse.dropWhile (· == "")).reverse.length) :
    (names.reverse.dropWhile (· == "")).reverse = names ∧ names.getLast? ≠ some "" := by
  have kept : names.reverse.dropWhile (· == "") = names.reverse :=
    (List.dropWhile_suffix _).eq_of_length_le (by simpa using whole)
  refine ⟨by rw [kept, List.reverse_reverse], fun empty => ?_⟩
  have first := List.head?_dropWhile_not (· == "") names.reverse
  rw [kept, List.head?_reverse, empty] at first
  cases first

/-! ## Files in a directory -/

/-- Files that were put in a directory are found below it. -/
theorem filesBelow_inside
    (system : FileSystem)
    (directory : List String) :
    (system.inside directory).filesBelow directory = system.files := by
  have found (file : List String × ByteArray) :
      ((directory.isPrefixOf? (directory ++ file.1)).map fun location => (location, file.2)) =
        some file := by
    rw [List.isPrefixOf?_eq_some_iff_append_eq.mpr rfl, Option.map_some]
  rw [filesBelow, inside, List.filterMap_map]
  simp only [Function.comp_def, found, List.filterMap_some]

end FileSystem

namespace Host

open FileSystem

/-! ## Opening a file -/

/-- A file that can be written is named at the end of its path, and stands in a directory. -/
structure IsWrittenAt
    (host : Host)
    (path : String)
    (directory : List String)
    (name : String) :
    Prop where
  filled : path ≠ ""
  names :
    ∃ front,
      pathNames path = front ++ [name] ∧
        host.system.walk (host.startOf path) front = .ok directory
  proper : name ≠ "" ∧ name ≠ "." ∧ name ≠ ".."
  isDirectory : host.system.isDirectory directory = true
  notDirectory : host.system.isDirectory (directory ++ [name]) = false

/-- A location that can be written to is that of a name in a directory. -/
theorem exists_isWrittenAt
    {host : Host}
    {path : String}
    {location : List String}
    (found : host.writeLocation path = .ok location) :
    ∃ directory name, location = directory ++ [name] ∧ host.IsWrittenAt path directory name := by
  have filled : path ≠ "" := by
    rintro rfl
    cases found
  rw [writeLocation, if_neg filled] at found
  dsimp only at found
  -- The conditions are checked in turn, and the location is given if none of them fails.
  split at found
  · cases found
  rename_i directory leads
  split at found
  · cases found
  rename_i inside
  split at found
  · cases found
  rename_i proper
  split at found
  · cases found
  rename_i free
  split at found
  · cases found
  cases found
  simp only [Bool.or_eq_true, decide_eq_true_eq, not_or, Nat.not_lt] at proper
  obtain ⟨⟨whole, notHere⟩, notUp⟩ := proper
  obtain ⟨solid, namesFile⟩ := solid_of_length_le whole
  rw [solid] at leads notHere notUp free ⊢
  cases last : (pathNames path).getLast? with
  | none => simp [last] at notHere
  | some name =>
      rw [last, Option.getD_some] at notHere notUp free
      obtain ⟨front, shape⟩ := List.getLast?_eq_some_iff.mp last
      rw [shape, List.dropLast_concat] at leads
      refine ⟨directory, name, rfl, filled, ⟨front, shape, leads⟩, ⟨?_, notHere, notUp⟩, ?_, ?_⟩
      · rintro rfl
        exact namesFile last
      · simpa using inside
      · simpa using free

/-- What was put in the file at a path is read from it, where reading is not refused. -/
theorem read_withFile
    {host : Host}
    {path name : String}
    {directory : List String}
    (written : host.IsWrittenAt path directory name)
    (readable : (host.conditions (directory ++ [name])).readFault? = none)
    (text : String) :
    (host.withFile (directory ++ [name]) text.toUTF8).read path = .ok text := by
  have same := isDirectory_withFile written.isDirectory name text.toUTF8
  obtain ⟨front, names, leads⟩ := written.names
  have reached :
      (host.system.withFile (directory ++ [name]) text.toUTF8).walk (host.startOf path)
          (pathNames path) =
        .ok (directory ++ [name]) := by
    rw [names, walk_append (walk_eq_ok_of_sameDirectories same leads), walk,
      if_pos ((same directory).trans written.isDirectory), if_neg, if_neg written.proper.2.2, walk]
    simp [written.proper.1, written.proper.2.1]
  have held := lookup_withFile host.system (directory ++ [name]) (directory ++ [name]) text.toUTF8
  rw [if_pos rfl] at held
  have start : (host.withFile (directory ++ [name]) text.toUTF8).startOf path = host.startOf path :=
    rfl
  rw [read, if_neg written.filled, start, withFile, reached]
  simp only [readable, (same _).trans written.notDirectory, held, Bool.false_eq_true, ↓reduceIte]
  rw [fromUTF8?_toUTF8]

/-! ## Writing -/

/-- Bytes are put in as a whole, or a beginning of them is if the device takes no more. -/
theorem store_cases
    (conditions : FileConditions)
    (content : ByteArray) :
    conditions.store content = (.ok (), content) ∨
      ∃ limit fault,
        limit < content.size ∧
          conditions.store content = (.error fault, content.extract 0 limit) := by
  unfold FileConditions.store
  cases conditions.limit? with
  | none => exact .inl rfl
  | some limited =>
      obtain ⟨limit, fault⟩ := limited
      by_cases tooLong : limit < content.size
      · exact .inr ⟨limit, fault, tooLong, if_pos tooLong⟩
      · exact .inl (if_neg tooLong)

/-- Where the file cannot be opened, nothing is written. -/
theorem write_of_unopened
    {host : Host}
    {path : String}
    {fault : FileFault}
    (unopened : host.writeLocation path = .error fault)
    (text : String) :
    host.write path text = (.error fault, host) := by
  rw [write, unopened]

/-- A file that is opened holds the text, or a beginning of it if the write breaks off. -/
theorem write_of_opened
    {host : Host}
    {path : String}
    {location : List String}
    (opened : host.writeLocation path = .ok location)
    (text : String) :
    host.write path text = (.ok (), host.withFile location text.toUTF8) ∨
      ∃ fault,
        ∃ length < text.toUTF8.size,
          host.write path text =
            (.error fault, host.withFile location (text.toUTF8.extract 0 length)) := by
  have written :
      host.write path text =
        (((host.conditions location).store text.toUTF8).1,
          host.withFile location ((host.conditions location).store text.toUTF8).2) := by
    rw [write, opened]
  rcases store_cases (host.conditions location) text.toUTF8 with
    stored | ⟨length, fault, shorter, stored⟩
  · exact .inl (by rw [written, stored])
  · exact .inr ⟨fault, length, shorter, by rw [written, stored]⟩

/-- The file at the location holds the content. -/
theorem lookup_withFile_self
    (host : Host)
    (location : List String)
    (content : ByteArray) :
    (host.withFile location content).system.files.lookup location = some content := by
  rw [withFile, lookup_withFile, if_pos rfl]

/-- Nothing is different from an earlier state but the file that a path leads to. -/
structure DiffersOnlyAt
    (later earlier : Host)
    (path : String) :
    Prop where
  otherFiles :
    ∀ location, earlier.writeLocation path ≠ .ok location →
      later.system.files.lookup location = earlier.system.files.lookup location
  directories :
    ∀ location, later.system.isDirectory location = earlier.system.isDirectory location
  surroundings :
    later.workingDirectory = earlier.workingDirectory ∧ later.conditions = earlier.conditions

/-- A host that nothing was done to is as it was. -/
theorem DiffersOnlyAt.refl
    (host : Host)
    (path : String) :
    host.DiffersOnlyAt host path :=
  ⟨fun _ _ => rfl, fun _ => rfl, rfl, rfl⟩

/-- A write changes the file at its location alone. -/
theorem differsOnlyAt_withFile
    {host : Host}
    {path : String}
    {location : List String}
    (found : host.writeLocation path = .ok location)
    (content : ByteArray) :
    (host.withFile location content).DiffersOnlyAt host path where
  otherFiles := by
    intro other elsewhere
    rw [withFile, lookup_withFile, if_neg]
    rintro rfl
    exact elsewhere found
  directories := by
    obtain ⟨directory, name, rfl, written⟩ := exists_isWrittenAt found
    exact isDirectory_withFile written.isDirectory name content
  surroundings := ⟨rfl, rfl⟩

end Host

end InitializerJson
