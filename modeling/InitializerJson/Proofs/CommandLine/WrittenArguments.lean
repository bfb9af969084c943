import InitializerJson.CommandLine.Command

namespace InitializerJson

/-!
# Arguments as they are written

What is wanted from some files can be written in one word for each argument, an
option with its value attached.  In whatever order paths, an identifier, the way
of addressing and the layout are written, the same command is read from them.
-/

namespace Argument

/-- The word that an argument is written as, with two hyphens if it is an option. -/
def written : Argument → String
  | file path => path
  | identifier name => "--identifier=" ++ name
  | output path => "--output=" ++ path
  | byType => "--by-type"
  | compact => "--compact"
  | verbose => "--verbose"
  | help => "--help"

/-- An argument is a path without a leading hyphen, or says what is wanted. -/
def IsRequest : Argument → Prop
  | file path => path.toList.head? ≠ some '-'
  | identifier _ => True
  | byType => True
  | compact => True
  | _ => False

end Argument

section Reading

variable
  {command : CommandName}

/-- A word that gives options without awaiting a value is read as these options. -/
theorem readArguments?_option
    {word : String}
    {read : List Argument}
    (isOption : looksLikeOption word.toList = true)
    (notEnd : word ≠ "--")
    (reads : readOption? command word.toList = some (read, none))
    (noHelp : .help ∉ read)
    (rest : List String) :
    readArguments? command (word :: rest) = (readArguments? command rest).map (read ++ ·) := by
  rw [readArguments?]
  · simp [isOption, reads, noHelp]
  · exact notEnd

/-- A word that is no option is read as a path. -/
theorem readArguments?_file
    {path : String}
    (noOption : looksLikeOption path.toList = false)
    (notEnd : path ≠ "--")
    (rest : List String) :
    readArguments? command (path :: rest) =
      (readArguments? command rest).map (.file path :: ·) := by
  rw [readArguments?]
  · simp [noOption]
  · exact notEnd

/-- A word that awaits a value is read with the word behind it. -/
theorem readArguments?_awaiting
    {word value : String}
    {read : List Argument}
    {awaited : String → Argument}
    (isOption : looksLikeOption word.toList = true)
    (notEnd : word ≠ "--")
    (reads : readOption? command word.toList = some (read, some awaited))
    (noOption : looksLikeOption value.toList = false)
    (rest : List String) :
    readArguments? command (word :: value :: rest) =
      (readArguments? command rest).map (read ++ awaited value :: ·) := by
  rw [readArguments?]
  · simp [isOption, reads, noOption]
  · exact notEnd

/-- A hyphen and some letters are read as options, unless they are two hyphens alone. -/
theorem readArguments?_hyphen
    {word : String}
    {letters : List Char}
    {read : List Argument}
    (spelled : word.toList = '-' :: letters)
    (lettered : letters ≠ [])
    (notEnd : letters ≠ ['-'])
    (reads : readOption? command ('-' :: letters) = some (read, none))
    (noHelp : .help ∉ read)
    (rest : List String) :
    readArguments? command (word :: rest) = (readArguments? command rest).map (read ++ ·) := by
  obtain ⟨letter, others, rfl⟩ := List.exists_cons_of_ne_nil lettered
  refine readArguments?_option ?_ ?_ ?_ noHelp rest
  · rw [spelled]
    rfl
  · rintro rfl
    exact notEnd (List.cons.inj spelled).2.symm
  · rw [spelled]
    exact reads

/-- A value is read from a long option that has it attached. -/
theorem readOption?_attached
    {name : List Char}
    {argument : String → Argument}
    (means : command.longOption? (String.ofList name) = some (.valued argument))
    (noEquals : '=' ∉ name)
    (value : String) :
    readOption? command ('-' :: '-' :: (name ++ '=' :: value.toList)) =
      some ([argument value], none) := by
  have inName : ∀ letter ∈ name, (letter != '=') = true := by
    intro letter member
    rw [bne_iff_ne]
    rintro rfl
    exact noEquals member
  have front : (name ++ '=' :: value.toList).takeWhile (· != '=') = name := by
    rw [List.takeWhile_append_of_pos inName]
    simp
  have back : (name ++ '=' :: value.toList).dropWhile (· != '=') = '=' :: value.toList := by
    rw [List.dropWhile_append_of_pos inName]
    simp
  simp only [readOption?, readLong?, front, back, means, String.ofList_toList]

/-- A request is read from the word that it is written as. -/
theorem readArguments?_written
    (extracts : command ≠ .tokens)
    {argument : Argument}
    (request : argument.IsRequest)
    (rest : List String) :
    readArguments? command (argument.written :: rest) =
      (readArguments? command rest).map (argument :: ·) := by
  cases argument with
  | file path =>
      have noOption : looksLikeOption path.toList = false := by
        rcases letters : path.toList with _ | ⟨first, others⟩
        · rfl
        · have noHyphen : first ≠ '-' := by
            simpa [Argument.IsRequest, letters] using request
          simp [looksLikeOption, noHyphen]
      refine readArguments?_file noOption ?_ rest
      rintro rfl
      exact request rfl
  | identifier name =>
      have spelled :
          (Argument.identifier name).written.toList =
            '-' :: '-' :: (['i', 'd', 'e', 'n', 't', 'i', 'f', 'i', 'e', 'r'] ++
              '=' :: name.toList) := by
        rw [Argument.written, String.toList_append]
        rfl
      have means :
          command.longOption? (String.ofList ['i', 'd', 'e', 'n', 't', 'i', 'f', 'i', 'e', 'r']) =
            some (.valued .identifier) := by
        cases command with
        | extract | batch => rfl
        | tokens => exact absurd rfl extracts
      exact readArguments?_hyphen spelled (by simp) (by simp)
        (readOption?_attached means (by decide) name) (by simp) rest
  | byType =>
      have reads :
          readOption? command Argument.byType.written.toList = some ([.byType], none) := by
        cases command with
        | extract | batch => rfl
        | tokens => exact absurd rfl extracts
      exact readArguments?_option (by decide) (by decide) reads (by simp) rest
  | compact =>
      have reads :
          readOption? command Argument.compact.written.toList = some ([.compact], none) := by
        cases command with
        | extract | batch => rfl
        | tokens => exact absurd rfl extracts
      exact readArguments?_option (by decide) (by decide) reads (by simp) rest
  | output | verbose | help => exact request.elim

/-- Requests are read from the words that they are written as. -/
theorem readArguments?_map_written
    (extracts : command ≠ .tokens)
    {arguments : List Argument}
    (requests : ∀ argument ∈ arguments, argument.IsRequest) :
    readArguments? command (arguments.map Argument.written) = some arguments := by
  induction arguments with
  | nil => rfl
  | cons argument others hypothesis =>
      rw [List.forall_mem_cons] at requests
      rw [List.map_cons, readArguments?_written extracts requests.1, hypothesis requests.2]
      rfl

end Reading

/-! ## What arguments ask for -/

section Choices

variable
  {arguments : List Argument}
  {argument : Argument}
  {choice : Bool}
  (count : arguments.count argument = choice.toNat)

include count

/-- What is given as often as a choice says is not given twice. -/
theorem count_le_one_of_toNat :
    arguments.count argument ≤ 1 := by
  rw [count]
  exact Bool.toNat_le choice

/-- What is given as often as a choice says is given exactly if it is chosen. -/
theorem mem_iff_of_toNat :
    argument ∈ arguments ↔ choice = true := by
  rw [← List.count_pos_iff, count]
  cases choice <;> decide

end Choices

/--
Some arguments request an extraction: one file is given, a target, and perhaps where to save
the text.  Nothing is given twice, help is not asked for, and without an identifier the target
has the default one.
-/
structure RequestsExtraction
    (arguments : List Argument)
    (file : String)
    (target : Target)
    (output : Option String) :
    Prop where
  file : arguments.filterMap Argument.file? = [file]
  identifier :
    arguments.filterMap Argument.identifier? = [target.identifier] ∨
      arguments.filterMap Argument.identifier? = [] ∧ target.identifier = "Body"
  byType : arguments.count .byType = target.byType.toNat
  compact : arguments.count .compact = target.compact.toNat
  output : arguments.filterMap Argument.output? = output.toList
  noHelp : .help ∉ arguments

/-- A requested extraction is refused for an empty path, and is the command otherwise. -/
theorem RequestsExtraction.assemble?_eq
    {arguments : List Argument}
    {file : String}
    {target : Target}
    {output : Option String}
    (requests : RequestsExtraction arguments file target output) :
    CommandName.extract.assemble? arguments =
      if file = "" ∨ output = some "" then none else some (.extract file target output) := by
  have identified :
      ∃ name : Option String,
        atMostOne (arguments.filterMap Argument.identifier?) = some name ∧
          name.getD "Body" = target.identifier := by
    rcases requests.identifier with given | ⟨missing, default⟩
    · exact ⟨some target.identifier, by rw [given, atMostOne], rfl⟩
    · exact ⟨none, by rw [missing, atMostOne], default.symm⟩
  obtain ⟨name, single, named⟩ := identified
  have saved : atMostOne (arguments.filterMap Argument.output?) = some output := by
    rw [requests.output]
    cases output <;> rfl
  have chosen :
      (⟨name.getD "Body", arguments.contains .byType, arguments.contains .compact⟩ : Target) =
        target := by
    rw [named]
    congr 1
    · rw [Bool.eq_iff_iff, List.contains_iff_mem]
      exact mem_iff_of_toNat requests.byType
    · rw [Bool.eq_iff_iff, List.contains_iff_mem]
      exact mem_iff_of_toNat requests.compact
  have byTypeOnce := Nat.not_lt.mpr (count_le_one_of_toNat requests.byType)
  have compactOnce := Nat.not_lt.mpr (count_le_one_of_toNat requests.compact)
  have noHelp : arguments.contains .help = false := by
    simpa using requests.noHelp
  have refused : ([file].contains "" || output == some "") =
      decide (file = "" ∨ output = some "") := by
    rw [Bool.eq_iff_iff, Bool.or_eq_true, decide_eq_true_eq, beq_iff_eq, List.contains_iff_mem,
      List.mem_singleton, eq_comm (a := "")]
  simp only [CommandName.assemble?, single, saved, requests.file, Option.bind_eq_bind,
    Option.bind_some, byTypeOnce, compactOnce, refused, noHelp, chosen, List.length_singleton,
    Nat.lt_irrefl, decide_false, Bool.or_false, Bool.false_and, Bool.false_eq_true, ↓reduceIte,
    decide_eq_true_eq]

/-- What is not given twice is given as often as it is among the arguments. -/
theorem count_eq_toNat_contains
    {arguments : List Argument}
    {argument : Argument}
    (once : ¬1 < arguments.count argument) :
    arguments.count argument = (arguments.contains argument).toNat := by
  by_cases given : argument ∈ arguments
  · have positive := List.count_pos_iff.mpr given
    rw [List.contains_iff_mem.mpr given, Bool.toNat_true]
    omega
  · rw [List.count_eq_zero.mpr given]
    simp [given]

/-- The only value, if any, makes up all that is given. -/
theorem atMostOne_eq_some
    {α : Type}
    {values : List α}
    {value : Option α}
    (single : atMostOne values = some value) :
    values = value.toList := by
  rcases values with _ | ⟨first, _ | ⟨second, others⟩⟩
  · cases single
    rfl
  · cases single
    rfl
  · cases single

/-- The command to extract is made of requests for it only, and without an empty path. -/
theorem requestsExtraction_of_assemble?
    {arguments : List Argument}
    {file : String}
    {target : Target}
    {output : Option String}
    (assembled : CommandName.extract.assemble? arguments = some (.extract file target output)) :
    RequestsExtraction arguments file target output ∧ file ≠ "" ∧ output ≠ some "" := by
  simp only [CommandName.assemble?, Option.bind_eq_bind, Option.bind_eq_some_iff] at assembled
  obtain ⟨name, identified, saved, outputs, assembled⟩ := assembled
  -- The arguments are refused for several reasons in turn, none of which holds.
  split at assembled
  · cases assembled
  rename_i once
  split at assembled
  · cases assembled
  rename_i filled
  split at assembled
  · cases assembled
  split at assembled
  · cases assembled
  rename_i noHelp
  split at assembled
  · rename_i _ path files
    cases assembled
    simp only [Bool.or_eq_true, decide_eq_true_eq, not_or] at once filled
    rw [files] at filled
    refine ⟨⟨files, ?_, ?_, ?_, ?_, ?_⟩, ?_, ?_⟩
    · rw [atMostOne_eq_some identified]
      cases name with
      | none => exact .inr ⟨rfl, rfl⟩
      | some given => exact .inl rfl
    · exact count_eq_toNat_contains once.1
    · exact count_eq_toNat_contains once.2
    · exact atMostOne_eq_some outputs
    · simpa using noHelp
    · rintro rfl
      exact filled.1 rfl
    · rintro rfl
      exact filled.2 rfl
  all_goals cases assembled

/-- Words that are read as a request for an extraction are the command, or refused. -/
theorem readCommand?_of_requestsExtraction
    {words : List String}
    {arguments : List Argument}
    {file : String}
    {target : Target}
    {output : Option String}
    (read : readArguments? .extract words = some arguments)
    (requests : RequestsExtraction arguments file target output) :
    readCommand? ("extract" :: words) =
      if file = "" ∨ output = some "" then none else some (.extract file target output) := by
  simp only [readCommand?, CommandName.ofWord?, CommandName.command?, read, Option.bind_some,
    requests.assemble?_eq]

/--
Some arguments ask for a target in some files: each argument is a request, the
files are given in their order, and nothing is given twice.
-/
structure AsksFor
    (arguments : List Argument)
    (files : List String)
    (target : Target) :
    Prop where
  requests : ∀ argument ∈ arguments, argument.IsRequest
  files : arguments.filterMap Argument.file? = files
  identifier : arguments.filterMap Argument.identifier? = [target.identifier]
  byType : arguments.count .byType = target.byType.toNat
  compact : arguments.count .compact = target.compact.toNat

namespace AsksFor

variable
  {arguments : List Argument}
  {files : List String}
  {target : Target}
  (asks : AsksFor arguments files target)

include asks

/-- Nothing is asked to be saved. -/
theorem output_eq_nil :
    arguments.filterMap Argument.output? = [] := by
  refine List.filterMap_eq_nil_iff.mpr fun argument member => ?_
  have request := asks.requests argument member
  cases argument with
  | output => exact request.elim
  | _ => rfl

/-- No help is asked for. -/
theorem help_notMem :
    .help ∉ arguments :=
  fun member => asks.requests .help member

/-- No option that chooses something is given twice. -/
theorem noneTwice :
    arguments.count .byType ≤ 1 ∧ arguments.count .compact ≤ 1 :=
  ⟨count_le_one_of_toNat asks.byType, count_le_one_of_toNat asks.compact⟩

/-- The arguments choose what the target has chosen. -/
theorem mem_iff :
    (.byType ∈ arguments ↔ target.byType = true) ∧
      (.compact ∈ arguments ↔ target.compact = true) :=
  ⟨mem_iff_of_toNat asks.byType, mem_iff_of_toNat asks.compact⟩

end AsksFor

/-- What is asked for in one file is a request for an extraction from it. -/
theorem AsksFor.requestsExtraction
    {arguments : List Argument}
    {file : String}
    {target : Target}
    (asks : AsksFor arguments [file] target) :
    RequestsExtraction arguments file target none where
  file := asks.files
  identifier := .inl asks.identifier
  byType := asks.byType
  compact := asks.compact
  output := asks.output_eq_nil
  noHelp := asks.help_notMem

/-- The arguments that ask for a target in some files, the files behind the options. -/
def requestFor
    (files : List String)
    (target : Target) :
    List Argument :=
  .identifier target.identifier ::
    (List.replicate target.byType.toNat .byType ++
      (List.replicate target.compact.toNat .compact ++ files.map .file))

/-- Any target can be asked for in files whose paths have no leading hyphen. -/
theorem asksFor_requestFor
    {files : List String}
    (noHyphen : ∀ path ∈ files, path.toList.head? ≠ some '-')
    (target : Target) :
    AsksFor (requestFor files target) files target where
  requests := by
    simp only [requestFor, List.forall_mem_cons, List.forall_mem_append, List.forall_mem_map]
    refine ⟨trivial, ?_, ?_, noHyphen⟩
    · intro argument member
      rw [List.eq_of_mem_replicate member]
      trivial
    · intro argument member
      rw [List.eq_of_mem_replicate member]
      trivial
  files := by
    rcases target with ⟨identifier, _ | _, _ | _⟩ <;>
      simp [requestFor, Argument.file?, List.filterMap_cons, List.filterMap_map, Function.comp_def]
  identifier := by
    rcases target with ⟨identifier, _ | _, _ | _⟩ <;>
      simp [requestFor, Argument.identifier?, Function.comp_def]
  byType := by
    simp [requestFor, List.count_replicate, List.count_eq_zero]
  compact := by
    simp [requestFor, List.count_replicate, List.count_eq_zero]

/-- One file and a target are read as the command to extract from it. -/
theorem AsksFor.readCommand?_extract
    {arguments : List Argument}
    {target : Target}
    {file : String}
    (asks : AsksFor arguments [file] target)
    (nonempty : file ≠ "") :
    readCommand? ("extract" :: arguments.map Argument.written) =
      some (.extract file target none) := by
  have read : readArguments? .extract (arguments.map Argument.written) = some arguments :=
    readArguments?_map_written (by decide) asks.requests
  rw [readCommand?_of_requestsExtraction read asks.requestsExtraction, if_neg]
  simpa using nonempty

/-- Some files and a target are read as the command to report on them. -/
theorem AsksFor.readCommand?_batch
    {arguments : List Argument}
    {files : List String}
    {target : Target}
    (asks : AsksFor arguments files target)
    (nonempty : files ≠ [])
    (noEmpty : "" ∉ files) :
    readCommand? ("batch" :: arguments.map Argument.written) = some (.batch files target) := by
  have read : readArguments? .batch (arguments.map Argument.written) = some arguments :=
    readArguments?_map_written (by decide) asks.requests
  have assembled : CommandName.batch.assemble? arguments = some (.batch files target) := by
    obtain ⟨first, others, rfl⟩ := List.exists_cons_of_ne_nil nonempty
    simp [CommandName.assemble?, asks.files, asks.identifier, asks.output_eq_nil, atMostOne,
      asks.noneTwice, asks.mem_iff, asks.help_notMem, noEmpty]
  simp only [readCommand?, CommandName.ofWord?, CommandName.command?, read, Option.bind_some,
    assembled]

end InitializerJson
