import InitializerJson.Proofs.CommandLine.BatchAgreement
import InitializerJson.Proofs.CommandLine.OutputOption
import InitializerJson.Proofs.Extraction.WrittenFile

namespace InitializerJson

/-!
# Saving what is extracted

A run that names an output comes to the same extraction as the run that prints it.  No file is
opened before that is known, so that the files change only where there is a text to save, and
then only the file that the output names; that file may be the source itself.  From then on the
output holds the whole text, or a beginning of it if the write breaks off.
-/

open Host

/-- What came of the file that a target is looked for in. -/
def extractionFrom
    (host : Host)
    (file : String)
    (target : Target) :
    Except ExtractionError (Lookup String) :=
  extractFile host.read file (target.options target.layout)

/-- The exit code of a run that is to save what came of its file at a path. -/
def savingExitCode
    (host : Host)
    (path : String) :
    Except ExtractionError (Lookup String) → Nat
  | .error _ => 1
  | .ok .noMatch => 2
  | .ok .noInitializer => 0
  | .ok (.found text) =>
      match (host.write path text).1 with
      | .error _ => 1
      | .ok _ => 0

/--
The end of a run that is to save what is extracted from a file, and the host after it, next to
those of a run that is to print it.
-/
structure SavesOnSuccess
    (host : Host)
    (file path : String)
    (target : Target)
    (printed saved : Outcome × Host) :
    Prop where
  silent : saved.1.output = ""
  others : saved.2.DiffersOnlyAt host path
  /-- The files are as before, unless a text is extracted and its output can be opened. -/
  changed :
    saved.2 ≠ host →
      ∃ text location,
        extractionFrom host file target = .ok (.found text) ∧
          host.writeLocation path = .ok location
  /-- If it can be written as a whole, the output holds what is printed without the line's end. -/
  written :
    ∀ text location,
      extractionFrom host file target = .ok (.found text) →
        host.writeLocation path = .ok location →
          (host.write path text).1 = .ok () →
            printed.1 = .success (text ++ "\n") ∧
              saved.1 = .success "" ∧
              saved.2.system.files.lookup location = some text.toUTF8 ∧
              ((host.conditions location).readFault? = none → saved.2.read path = .ok text)
  /-- If the write breaks off, the output holds a beginning of that. -/
  brokenOff :
    ∀ text location fault,
      extractionFrom host file target = .ok (.found text) →
        host.writeLocation path = .ok location →
          (host.write path text).1 = .error fault →
            printed.1 = .success (text ++ "\n") ∧
              saved.1 = .unsaved path fault ∧
              ∃ length < text.toUTF8.size,
                saved.2.system.files.lookup location = some (text.toUTF8.extract 0 length)
  /-- Where nothing is extracted, there is no difference between the runs. -/
  agrees :
    path ≠ "" →
      (∀ text, extractionFrom host file target ≠ .ok (.found text)) →
        saved = printed
  exitCode :
    saved.1.exitCode =
      if file = "" ∨ path = "" then
        2
      else
        savingExitCode host path (extractionFrom host file target)

section Saving

variable
  {host : Host}
  {file path : String}
  {target : Target}

/-- A text that is extracted is to be saved. -/
theorem runExtract_of_found
    {text : String}
    (extracted : extractionFrom host file target = .ok (.found text)) :
    runExtract host.read file target (some path) = .save path text := by
  rw [extractionFrom] at extracted
  rw [runExtract, extracted]

/-- Without a text the run ends as if there were no output to save it in. -/
theorem runExtract_of_not_found
    (nothing : ∀ text, extractionFrom host file target ≠ .ok (.found text)) :
    runExtract host.read file target (some path) =
      .finish (extractOutcome target file (extractionFrom host file target)) := by
  unfold runExtract
  unfold extractionFrom at nothing ⊢
  rcases result : extractFile host.read file (target.options target.layout) with
    error | text | _ | _
  case ok.found => exact absurd result (nothing text)
  all_goals rfl

/-- An extraction without a text ends with nothing on the output. -/
theorem output_extractOutcome
    {result : Except ExtractionError (Lookup String)}
    (nothing : ∀ text, result ≠ .ok (.found text)) :
    (extractOutcome target file result).output = "" := by
  rcases result with error | text | _ | _
  case ok.found => exact absurd rfl (nothing text)
  all_goals rfl

/-- An extraction without a text ends with the same exit code if it is to be saved. -/
theorem exitCode_extractOutcome
    {result : Except ExtractionError (Lookup String)}
    (nothing : ∀ text, result ≠ .ok (.found text)) :
    (extractOutcome target file result).exitCode = savingExitCode host path result := by
  rcases result with error | text | _ | _
  case ok.found => exact absurd rfl (nothing text)
  all_goals rfl

/-- Arguments with an empty path are refused, and no file is touched. -/
theorem savesOnSuccess_misused
    {printed : Outcome × Host}
    (empty : file = "" ∨ path = "")
    (alsoPrinted : path ≠ "" → printed = (.misused, host)) :
    SavesOnSuccess host file path target printed (.misused, host) := by
  -- An empty path leads to no file, whether it is to be read or written.
  have contradiction
      {text : String}
      {location : List String}
      (extracted : extractionFrom host file target = .ok (.found text))
      (located : host.writeLocation path = .ok location) :
      False := by
    rcases empty with rfl | rfl
    · cases extracted
    · cases located
  exact {
    silent := rfl
    others := .refl host path
    changed := fun different => absurd rfl different
    written := fun _ _ extracted located => (contradiction extracted located).elim
    brokenOff := fun _ _ _ extracted located => (contradiction extracted located).elim
    agrees := fun nonempty _ => (alsoPrinted nonempty).symm
    exitCode := by
      rw [if_pos empty]
      rfl
  }

section Extracted

variable
  (filled : ¬(file = "" ∨ path = ""))

include filled

/-- A run that extracts nothing ends as if it were to print it. -/
theorem savesOnSuccess_of_not_found
    (nothing : ∀ text, extractionFrom host file target ≠ .ok (.found text)) :
    SavesOnSuccess host file path target
      (extractOutcome target file (extractionFrom host file target), host)
      (extractOutcome target file (extractionFrom host file target), host) where
  silent := output_extractOutcome nothing
  others := .refl host path
  changed := fun different => absurd rfl different
  written := fun text _ extracted => absurd extracted (nothing text)
  brokenOff := fun text _ _ extracted => absurd extracted (nothing text)
  agrees := fun _ _ => rfl
  exitCode := by
    rw [if_neg filled]
    exact exitCode_extractOutcome nothing

/-- A run whose output cannot be opened leaves the files as they are. -/
theorem savesOnSuccess_of_unopened
    {text : String}
    {fault : FileFault}
    (extracted : extractionFrom host file target = .ok (.found text))
    (unopened : host.writeLocation path = .error fault)
    (printed : Outcome × Host) :
    SavesOnSuccess host file path target printed (.unsaved path fault, host) where
  silent := rfl
  others := .refl host path
  changed := fun different => absurd rfl different
  written := by
    rintro _ location - opened
    rw [unopened] at opened
    cases opened
  brokenOff := by
    rintro _ location _ - opened
    rw [unopened] at opened
    cases opened
  agrees := fun _ nothing => absurd extracted (nothing text)
  exitCode := by
    rw [if_neg filled, extracted, savingExitCode, write_of_unopened unopened]
    rfl

section Opened

variable
  {text : String}
  {location : List String}
  (extracted : extractionFrom host file target = .ok (.found text))
  (opened : host.writeLocation path = .ok location)

include extracted opened

/-- A run that writes its output leaves the text there, and all else as it is. -/
theorem savesOnSuccess_of_written
    (whole : host.write path text = (.ok (), host.withFile location text.toUTF8)) :
    SavesOnSuccess host file path target
      (.success (text ++ "\n"), host)
      (.success "", host.withFile location text.toUTF8) where
  silent := rfl
  others := differsOnlyAt_withFile opened _
  changed := fun _ => ⟨text, location, extracted, opened⟩
  written := by
    intro other elsewhere alsoExtracted alsoOpened _
    cases extracted.symm.trans alsoExtracted
    cases opened.symm.trans alsoOpened
    refine ⟨rfl, rfl, lookup_withFile_self host location _, fun readable => ?_⟩
    obtain ⟨directory, name, rfl, isWritten⟩ := exists_isWrittenAt opened
    exact read_withFile isWritten readable text
  brokenOff := by
    intro other _ _ alsoExtracted _ failed
    cases extracted.symm.trans alsoExtracted
    rw [whole] at failed
    cases failed
  agrees := fun _ nothing => absurd extracted (nothing text)
  exitCode := by
    rw [if_neg filled, extracted, savingExitCode, whole]
    rfl

/-- A run whose write breaks off leaves a beginning of the text there, and all else as it is. -/
theorem savesOnSuccess_of_brokenOff
    {fault : FileFault}
    {length : Nat}
    (shorter : length < text.toUTF8.size)
    (partly :
      host.write path text =
        (.error fault, host.withFile location (text.toUTF8.extract 0 length))) :
    SavesOnSuccess host file path target
      (.success (text ++ "\n"), host)
      (.unsaved path fault, host.withFile location (text.toUTF8.extract 0 length)) where
  silent := rfl
  others := differsOnlyAt_withFile opened _
  changed := fun _ => ⟨text, location, extracted, opened⟩
  written := by
    intro other _ alsoExtracted _ succeeded
    cases extracted.symm.trans alsoExtracted
    rw [partly] at succeeded
    cases succeeded
  brokenOff := by
    intro other elsewhere _ alsoExtracted alsoOpened failed
    cases extracted.symm.trans alsoExtracted
    cases opened.symm.trans alsoOpened
    rw [partly] at failed
    cases failed
    exact ⟨rfl, rfl, length, shorter, lookup_withFile_self host location _⟩
  agrees := fun _ nothing => absurd extracted (nothing text)
  exitCode := by
    rw [if_neg filled, extracted, savingExitCode, partly]
    rfl

end Opened

/-- A run that extracts a text tries to write it. -/
theorem savesOnSuccess_of_found
    {text : String}
    (extracted : extractionFrom host file target = .ok (.found text)) :
    SavesOnSuccess host file path target
      (.success (text ++ "\n"), host) ((Action.save path text).perform host) := by
  cases located : host.writeLocation path with
  | error fault =>
      rw [Action.perform, write_of_unopened located]
      exact savesOnSuccess_of_unopened filled extracted located _
  | ok location =>
      rcases write_of_opened located text with whole | ⟨fault, length, shorter, partly⟩
      · rw [Action.perform, whole]
        exact savesOnSuccess_of_written filled extracted located whole
      · rw [Action.perform, partly]
        exact savesOnSuccess_of_brokenOff filled extracted located shorter partly

/-- A run that comes to its extraction saves the text of it, if there is one. -/
theorem savesOnSuccess_perform :
    SavesOnSuccess host file path target
      ((runExtract host.read file target none).perform host)
      ((runExtract host.read file target (some path)).perform host) := by
  have prints :
      (runExtract host.read file target none).perform host =
        (extractOutcome target file (extractionFrom host file target), host) := by
    rw [runExtract_eq_finish]
    rfl
  rw [prints]
  by_cases found : ∃ text, extractionFrom host file target = .ok (.found text)
  · obtain ⟨text, extracted⟩ := found
    rw [runExtract_of_found extracted, extracted]
    exact savesOnSuccess_of_found filled extracted
  · rw [not_exists] at found
    rw [runExtract_of_not_found found]
    exact savesOnSuccess_of_not_found filled found

end Extracted

end Saving

/-- A run that asks for an extraction is refused for an empty path, and performs it otherwise. -/
theorem AsksToExtract.run_eq
    {words : List String}
    {file : String}
    {target : Target}
    {output : Option String}
    (asks : AsksToExtract words file target output)
    (host : Host) :
    host.run ("extract" :: words) =
      if file = "" ∨ output = some "" then
        (.misused, host)
      else
        (runExtract host.read file target output).perform host := by
  obtain ⟨arguments, reads, requests⟩ := asks
  rw [Host.run, actionOf, readCommand?_of_requestsExtraction reads requests]
  by_cases empty : file = "" ∨ output = some ""
  · rw [if_pos empty, if_pos empty]
    rfl
  · rw [if_neg empty, if_neg empty]
    rfl

/--
A run that is to save what it extracts changes nothing but its output, and that only if there is
a text and the output can be opened: then the output holds the text that the same run prints
without it, or a beginning of that text if the write fails.  Which file the target is looked for
in is left open, so that it may be the output itself.
-/
theorem Host.run_savesOnSuccess
    {file path : String}
    {target : Target}
    {plain saving : List String}
    (prints : AsksToExtract plain file target none)
    (saves : AsksToExtract saving file target (some path))
    (host : Host) :
    SavesOnSuccess host file path target
      (host.run ("extract" :: plain))
      (host.run ("extract" :: saving)) := by
  rw [prints.run_eq, saves.run_eq]
  simp only [Option.some.injEq, reduceCtorEq, or_false]
  by_cases empty : file = "" ∨ path = ""
  · rw [if_pos empty]
    refine savesOnSuccess_misused empty fun nonempty => ?_
    rw [if_pos (empty.resolve_right nonempty)]
  · rw [if_neg empty, if_neg (not_or.mp empty).1]
    exact savesOnSuccess_perform empty

/-- A working directory below the root, with one file in it that assigns an object. -/
def oneFile : Host where
  system := ⟨[(["work", "a.cs"], "Body=new T\x7bx=1\x7d;".toUTF8)], []⟩
  workingDirectory := ["work"]
  conditions := fun _ => {}

/-- A file that is its own output, by its path from the root, is replaced by what is printed. -/
theorem Host.run_replaces_oneFile :
    (oneFile.run ["extract", "a.cs", "--compact"]).1.output = "\x7b\"x\":1\x7d\n" ∧
      (oneFile.run ["extract", "a.cs", "-o", "/work/a.cs", "--compact"]).1 = .success "" ∧
      (oneFile.run ["extract", "a.cs", "-o", "/work/a.cs", "--compact"]).2.read "/work/a.cs" =
        .ok "\x7b\"x\":1\x7d" := by
  have prints : AsksToExtract ["a.cs", "--compact"] "a.cs" ⟨"Body", false, true⟩ none :=
    ⟨[.file "a.cs", .compact], by decide, ⟨rfl, .inr ⟨rfl, rfl⟩, rfl, rfl, rfl, by simp⟩⟩
  have complete : readArguments? .extract ["a.cs"] = some [.file "a.cs"] := by
    decide
  have saves :
      AsksToExtract (["a.cs"] ++ (["-o", "/work/a.cs"] ++ ["--compact"])) "a.cs"
        ⟨"Body", false, true⟩ (some "/work/a.cs") :=
    prints.withOutput complete (by decide) (by simp) (.letterApart (by decide))
  have extracted :
      extractionFrom oneFile "a.cs" ⟨"Body", false, true⟩ = .ok (.found "\x7b\"x\":1\x7d") :=
    eq_ok_of_toOption (by decide +kernel)
  have opened : oneFile.writeLocation "/work/a.cs" = .ok ["work", "a.cs"] :=
    eq_ok_of_toOption (by decide +kernel)
  have whole : (oneFile.write "/work/a.cs" "\x7b\"x\":1\x7d").1 = .ok () :=
    eq_ok_of_toOption (by decide +kernel)
  obtain ⟨printed, ended, -, reads⟩ :=
    (run_savesOnSuccess prints saves oneFile).written _ _ extracted opened whole
  rw [printed]
  exact ⟨rfl, ended, reads rfl⟩

/-- The same file beside an earlier output, on a device that takes two more bytes. -/
def fullDevice : Host where
  system :=
    ⟨[(["a.cs"], "Body=new T\x7bx=1\x7d;".toUTF8), (["b.json"], "[\"before\"]".toUTF8)], []⟩
  workingDirectory := []
  conditions := fun location =>
    if location = ["b.json"] then
      { limit? := some (2, .other "No space left on device (os error 28)") }
    else
      {}

/--
A write that breaks off destroys what the output held before, though the run fails.  And what
has no name at all is neither a file that cannot be read nor an output that cannot be written,
but is refused with the arguments.
-/
theorem Host.run_fails_on_fullDevice :
    (fullDevice.run ["extract", "a.cs", "--compact"]).1 = .success "\x7b\"x\":1\x7d\n" ∧
      fullDevice.read "b.json" = .ok "[\"before\"]" ∧
      (fullDevice.run ["extract", "a.cs", "--compact", "-o", "b.json"]).1.exitCode = 1 ∧
      (fullDevice.run ["extract", "a.cs", "--compact", "-o", "b.json"]).2.read "b.json" =
        .ok "\x7b\"" ∧
      (fullDevice.run ["extract", "a.cs", "--compact", "-o", ""]).1.exitCode = 2 ∧
      (fullDevice.run ["extract", "", "--compact", "-o", "b.json"]).1.exitCode = 2 := by
  refine ⟨?_, eq_ok_of_toOption ?_, ?_, eq_ok_of_toOption ?_, ?_, ?_⟩ <;> decide +kernel

end InitializerJson
