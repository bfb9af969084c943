import InitializerJson.Proofs.CommandLine.WrittenArguments

namespace InitializerJson

/-!
# The option that names an output

A request for an extraction is turned into one to save the text by an option that may stand
between any two of its arguments, in one word with the path or in two.
-/

/-- Some words are read as a request for an extraction. -/
def AsksToExtract
    (words : List String)
    (file : String)
    (target : Target)
    (output : Option String) :
    Prop :=
  ∃ arguments,
    readArguments? .extract words = some arguments ∧
      RequestsExtraction arguments file target output

/-- The words that are read as the command to extract ask for it, without an empty path. -/
theorem readCommand?_extract_iff
    {words : List String}
    {file : String}
    {target : Target}
    {output : Option String} :
    readCommand? ("extract" :: words) = some (.extract file target output) ↔
      AsksToExtract words file target output ∧ file ≠ "" ∧ output ≠ some "" := by
  constructor
  · intro command
    obtain ⟨arguments, reads, assembled⟩ := Option.bind_eq_some_iff.mp command
    obtain ⟨requests, filled⟩ := requestsExtraction_of_assemble? assembled
    exact ⟨⟨arguments, reads, requests⟩, filled⟩
  · rintro ⟨⟨arguments, reads, requests⟩, fileFilled, outputFilled⟩
    rw [readCommand?_of_requestsExtraction reads requests, if_neg]
    exact not_or.mpr ⟨fileFilled, outputFilled⟩

/-- The words that name an output: the option with its path attached, or behind it. -/
inductive NamesOutput
    (path : String) :
    List String → Prop where
  | long :
      NamesOutput path [(Argument.output path).written]
  | longApart
      (noOption : looksLikeOption path.toList = false) :
      NamesOutput path ["--output", path]
  | letter
      (filled : path ≠ "")
      (noEquals : path.toList.head? ≠ some '=') :
      NamesOutput path ["-o" ++ path]
  | letterEquals :
      NamesOutput path ["-o=" ++ path]
  | letterApart
      (noOption : looksLikeOption path.toList = false) :
      NamesOutput path ["-o", path]

/-- The words that name an output are read as this option. -/
theorem NamesOutput.readArguments?_append
    {path : String}
    {words : List String}
    (names : NamesOutput path words)
    (rest : List String) :
    readArguments? .extract (words ++ rest) =
      (readArguments? .extract rest).map (.output path :: ·) := by
  cases names with
  | long =>
      have spelled :
          (Argument.output path).written.toList =
            '-' :: '-' :: (['o', 'u', 't', 'p', 'u', 't'] ++ '=' :: path.toList) := by
        rw [Argument.written, String.toList_append]
        rfl
      exact readArguments?_hyphen spelled (by simp) (by simp)
        (readOption?_attached rfl (by decide) path) (by simp) rest
  | longApart noOption =>
      have reads : readOption? .extract "--output".toList = some ([], some .output) := rfl
      exact readArguments?_awaiting (by decide) (by decide) reads noOption rest
  | letter filled noEquals =>
      have spelled : ("-o" ++ path).toList = '-' :: 'o' :: path.toList := by
        rw [String.toList_append]
        rfl
      have reads :
          readOption? .extract ('-' :: 'o' :: path.toList) = some ([.output path], none) := by
        have lettered : path.toList.isEmpty = false := by
          simpa using filled
        have whole : withoutEquals path.toList = path.toList := by
          rw [withoutEquals]
          intro value attached
          exact noEquals (by rw [attached, List.head?_cons])
        simp [readOption?, readLetters?, CommandName.shortOption?, lettered, whole]
      exact readArguments?_hyphen spelled (by simp) (by simp) reads (by simp) rest
  | letterEquals =>
      have spelled : ("-o=" ++ path).toList = '-' :: 'o' :: '=' :: path.toList := by
        rw [String.toList_append]
        rfl
      have reads :
          readOption? .extract ('-' :: 'o' :: '=' :: path.toList) =
            some ([.output path], none) := by
        simp [readOption?, readLetters?, CommandName.shortOption?, withoutEquals,
          String.ofList_toList]
      exact readArguments?_hyphen spelled (by simp) (by simp) reads (by simp) rest
  | letterApart noOption =>
      have reads : readOption? .extract "-o".toList = some ([], some .output) := rfl
      exact readArguments?_awaiting (by decide) (by decide) reads noOption rest

/-- Where an argument ends and the options go on, the words behind are read by themselves. -/
theorem readArguments?_append
    {command : CommandName}
    {front : List String}
    {read : List Argument}
    (complete : readArguments? command front = some read)
    (goesOn : "--" ∉ front)
    (noHelp : .help ∉ read)
    (back : List String) :
    readArguments? command (front ++ back) = (readArguments? command back).map (read ++ ·) := by
  fun_induction readArguments? command front generalizing read with
  | case1 =>
      cases complete
      simp
  | case2 => exact absurd List.mem_cons_self goesOn
  | case4 _ _ _ _ _ _ help =>
      cases complete
      exact absurd (List.contains_iff_mem.mp help) noHelp
  | case5 word rest notEnd isOption options reads _ hypothesis =>
      obtain ⟨others, completeRest, rfl⟩ := Option.map_eq_some_iff.mp complete
      rw [List.mem_append, not_or] at noHelp
      rw [List.mem_cons, not_or] at goesOn
      rw [List.cons_append, readArguments?_option isOption notEnd reads noHelp.1,
        hypothesis completeRest goesOn.2 noHelp.2, Option.map_map]
      simp [Function.comp_def]
  | case8 word notEnd isOption options awaited reads value rest noOption hypothesis =>
      obtain ⟨others, completeRest, rfl⟩ := Option.map_eq_some_iff.mp complete
      rw [List.mem_append, List.mem_cons, not_or, not_or] at noHelp
      rw [List.mem_cons, List.mem_cons, not_or, not_or] at goesOn
      rw [List.cons_append, List.cons_append,
        readArguments?_awaiting isOption notEnd reads (Bool.eq_false_iff.mpr noOption),
        hypothesis completeRest goesOn.2.2 noHelp.2.2, Option.map_map]
      simp [Function.comp_def]
  | case9 word rest notEnd noOption hypothesis =>
      obtain ⟨others, completeRest, rfl⟩ := Option.map_eq_some_iff.mp complete
      rw [List.mem_cons, not_or] at noHelp goesOn
      rw [List.cons_append, readArguments?_file (Bool.eq_false_iff.mpr noOption) notEnd,
        hypothesis completeRest goesOn.2 noHelp.2, Option.map_map]
      simp [Function.comp_def]
  | _ => cases complete

/-- An output among its arguments turns a request for an extraction into one to save it. -/
theorem RequestsExtraction.insertOutput
    {front back : List Argument}
    {file : String}
    {target : Target}
    (requests : RequestsExtraction (front ++ back) file target none)
    (path : String) :
    RequestsExtraction (front ++ .output path :: back) file target (some path) where
  file := by
    rw [List.filterMap_append, List.filterMap_cons_none rfl, ← List.filterMap_append]
    exact requests.file
  identifier := by
    rw [List.filterMap_append, List.filterMap_cons_none rfl, ← List.filterMap_append]
    exact requests.identifier
  byType := by
    rw [List.count_append, List.count_cons_of_ne (by simp), ← List.count_append]
    exact requests.byType
  compact := by
    rw [List.count_append, List.count_cons_of_ne (by simp), ← List.count_append]
    exact requests.compact
  output := by
    have named : Argument.output? (.output path) = some path := rfl
    have nowhere := requests.output
    rw [List.filterMap_append, Option.toList_none, List.append_eq_nil_iff] at nowhere
    rw [List.filterMap_append, List.filterMap_cons_some named, nowhere.1, nowhere.2]
    rfl
  noHelp := by
    simpa using requests.noHelp

/-- An option between its words turns a request for an extraction into one to save it. -/
theorem AsksToExtract.withOutput
    {front option back : List String}
    {read : List Argument}
    {file path : String}
    {target : Target}
    (asks : AsksToExtract (front ++ back) file target none)
    (complete : readArguments? .extract front = some read)
    (goesOn : "--" ∉ front)
    (noHelp : .help ∉ read)
    (names : NamesOutput path option) :
    AsksToExtract (front ++ (option ++ back)) file target (some path) := by
  obtain ⟨arguments, reads, requests⟩ := asks
  rw [readArguments?_append complete goesOn noHelp] at reads
  obtain ⟨others, readsBack, rfl⟩ := Option.map_eq_some_iff.mp reads
  refine ⟨read ++ .output path :: others, ?_, ?_⟩
  · rw [readArguments?_append complete goesOn noHelp, names.readArguments?_append, readsBack]
    rfl
  · exact requests.insertOutput path

/-- An option is not written as the end of the options. -/
theorem Argument.written_ne_end
    {argument : Argument}
    (noFile : argument.file? = none) :
    argument.written ≠ "--" := by
  intro same
  have sameLength := congrArg String.length same
  cases argument with
  | file path => cases noFile
  | identifier text | output text =>
      rw [Argument.written, String.length_append] at sameLength
      exact absurd (Nat.le.intro sameLength) (by decide)
  | byType | compact | verbose | help => exact absurd sameLength (by decide)

/-- Options that choose a target ask for it in any file, behind the end of the options. -/
theorem AsksFor.asksToExtract_behindOptions
    {arguments : List Argument}
    {target : Target}
    (asks : AsksFor arguments [] target)
    (file : String) :
    AsksToExtract (arguments.map Argument.written ++ ["--", file]) file target none := by
  have complete : readArguments? .extract (arguments.map Argument.written) = some arguments :=
    readArguments?_map_written (by decide) asks.requests
  have goesOn : "--" ∉ arguments.map Argument.written := by
    intro member
    obtain ⟨argument, given, isEnd⟩ := List.mem_map.mp member
    exact Argument.written_ne_end (List.filterMap_eq_nil_iff.mp asks.files argument given) isEnd
  refine ⟨arguments ++ [.file file], ?_, ?_, ?_, ?_, ?_, ?_, ?_⟩
  · rw [readArguments?_append complete goesOn asks.help_notMem]
    rfl
  · rw [List.filterMap_append, asks.files]
    rfl
  · rw [List.filterMap_append, asks.identifier]
    exact .inl rfl
  · rw [List.count_append, asks.byType]
    rfl
  · rw [List.count_append, asks.compact]
    rfl
  · rw [List.filterMap_append, asks.output_eq_nil]
    rfl
  · simpa using asks.help_notMem

/-- Any target can be asked for in any file, to be printed or to be saved anywhere. -/
theorem exists_asksToExtract
    (file path : String)
    (target : Target) :
    ∃ words,
      AsksToExtract words file target none ∧
        AsksToExtract ((Argument.output path).written :: words) file target (some path) := by
  have asks : AsksFor (requestFor [] target) [] target :=
    asksFor_requestFor (by simp) target
  have prints :
      AsksToExtract ([] ++ ((requestFor [] target).map Argument.written ++ ["--", file])) file
        target none :=
    asks.asksToExtract_behindOptions file
  exact ⟨_, prints, prints.withOutput rfl (by simp) (by simp) .long⟩

end InitializerJson
