import InitializerJson.Proofs.CommandLine.ReportText
import InitializerJson.Proofs.CommandLine.WrittenArguments
import InitializerJson.Proofs.Extraction.CanonicalOutput

namespace InitializerJson

open JsonText

/-!
# A batch agrees with single extractions

Every entry of the report of a batch says how the extraction from its file alone
would have ended, with the same options and in the compact layout.  No file has a
say in the entries of the others.
-/

/-- How an extraction without a file for its output ends. -/
def extractOutcome
    (target : Target)
    (file : String) :
    Except ExtractionError (Lookup String) → Outcome
  | .error error => .failure ("Failed to extract from " ++ file) error.causes
  | .ok .noInitializer => .success ""
  | .ok .noMatch => target.missing file
  | .ok (.found json) => .success (json ++ "\n")

/-- An extraction ends by what came of its file. -/
theorem runExtract_eq_finish
    (read : FileReader)
    (file : String)
    (target : Target) :
    runExtract read file target none =
      .finish (extractOutcome target file
        (extractFile read file (target.options target.layout))) := by
  unfold runExtract
  rcases extractFile read file (target.options target.layout) with error | _ | _ | _ <;> rfl

/--
An entry of a report tells how the extraction from its file ends: with which exit
code, and with which output or error.
-/
structure ReportedEntry.Tells
    (entry : ReportedEntry)
    (outcome : Outcome) :
    Prop where
  extracted :
    ∀ text, entry.status = "extracted" ∧ entry.bodyText = text ↔
      outcome.exitCode = 0 ∧ outcome.output = text ++ "\n"
  noInitializer :
    entry.status = "no_initializer" ↔ outcome.exitCode = 0 ∧ outcome.output = ""
  noMatch :
    entry.status = "no_match" ↔ outcome.exitCode = 2
  error :
    entry.status = "error" ↔ outcome.exitCode = 1
  /-- Where nothing is extracted, the body is null. -/
  nullBody :
    entry.status = "no_initializer" ∨ entry.status = "no_match" →
      entry.bodyText = "null" ∧ entry.body = .null
  /-- Where an error occurs, the body is its message. -/
  message :
    entry.status = "error" →
      ∃ error : ExtractionError,
        outcome = .failure ("Failed to extract from " ++ entry.path) error.causes ∧
          entry.body = .string error.message

/-- What is reported of a file tells how the extraction from it ends. -/
theorem tells_reported
    (target : Target)
    (file : String)
    (result : Except ExtractionError (Lookup String)) :
    (BatchEntry.reported ⟨file, result⟩).Tells (extractOutcome target file result) := by
  have null : decode? ['n', 'u', 'l', 'l'] = some .null :=
    ValueText.nullWord.decode?_eq
  rcases result with error | json | _ | _
  case error =>
    have body : BatchEntry.bodyValue ⟨file, .error error⟩ = .string error.message :=
      BatchEntry.bodyValue_eq (valueText_quote _)
    refine ⟨?_, ?_, ?_, ?_, ?_, fun _ => ⟨error, rfl, body⟩⟩ <;>
      simp [BatchEntry.reported, BatchEntry.status, extractOutcome, Outcome.failure]
  case ok.found =>
    refine ⟨fun text => ?_, ?_, ?_, ?_, ?_, ?_⟩ <;>
      simp [BatchEntry.reported, BatchEntry.status, BatchEntry.body, extractOutcome,
        Outcome.success, String.append_left_inj]
  case ok.noInitializer =>
    refine ⟨fun text => ?_, ?_, ?_, ?_, ?_, ?_⟩ <;>
      simp [BatchEntry.reported, BatchEntry.status, BatchEntry.body, BatchEntry.bodyValue, null,
        extractOutcome, Outcome.success]
  case ok.noMatch =>
    refine ⟨fun text => ?_, ?_, ?_, ?_, ?_, ?_⟩ <;>
      simp [BatchEntry.reported, BatchEntry.status, BatchEntry.body, BatchEntry.bodyValue, null,
        extractOutcome, Target.missing]

/-- What comes of a file has a body that stands for some value. -/
theorem exists_valueText_body
    {read : FileReader}
    {paths : List String}
    {options : Options}
    {entry : BatchEntry}
    (member : entry ∈ extractBatch read paths options) :
    ∃ value, ValueText entry.body value := by
  obtain ⟨path, _, rfl⟩ := List.mem_map.mp member
  unfold BatchEntry.body
  split
  · next json found =>
      obtain ⟨source, extracted⟩ := exists_extractJson found
      obtain ⟨members, _, written⟩ := valueText_of_extractJson extracted
      exact ⟨_, written⟩
  · exact ⟨_, .nullWord⟩
  · exact ⟨_, valueText_quote _⟩

/-- An error is reported exactly where there is one. -/
theorem status_reported_eq_error
    (entry : BatchEntry) :
    (entry.reported.status == "error") = entry.isError := by
  rcases entry with ⟨path, error | _ | _ | _⟩ <;> rfl

/--
A batch on any paths always ends with a report, in either layout with the same
entries, one for each path in their order.  Each entry tells how the compact
extraction from its file ends, and the batch fails only where an entry is an error.
-/
theorem batch_agrees_with_extract
    {check : DocumentCheck}
    (admits : check.AdmitsJson)
    (read : FileReader)
    (identifier : String)
    (byType : Bool)
    {paths : List String}
    (nonempty : paths ≠ [])
    (noEmpty : "" ∉ paths) :
    ∃ entries : List ReportedEntry,
      entries.map ReportedEntry.path = paths ∧
        (∀ compact arguments, AsksFor arguments paths ⟨identifier, byType, compact⟩ →
          ∃ report,
            actionOf check read ("batch" :: arguments.map Argument.written) =
              .finish ⟨if entries.any (·.status == "error") then 1 else 0, report ++ "\n",
                .lines []⟩ ∧
            decodeReport? report.toList = some entries) ∧
        ∀ entry ∈ entries, ∀ arguments, AsksFor arguments [entry.path] ⟨identifier, byType, true⟩ →
          ∃ outcome,
            actionOf check read ("extract" :: arguments.map Argument.written) =
              .finish outcome ∧
            entry.Tells outcome := by
  let target : Target :=
    ⟨identifier, byType, true⟩
  let batch : List BatchEntry :=
    extractBatch read paths (target.options .compact)
  have filled : batch ≠ [] := by
    simpa [batch, extractBatch] using nonempty
  have stand : ∀ entry ∈ batch, ValueText entry.body entry.bodyValue := by
    intro entry member
    obtain ⟨value, stands⟩ := exists_valueText_body member
    rwa [BatchEntry.bodyValue_eq stands]
  refine ⟨batch.map BatchEntry.reported, ?_, ?_, ?_⟩
  · simp only [batch, extractBatch, List.map_map]
    exact List.map_id paths
  · intro compact arguments asks
    refine ⟨writeReport (Target.layout ⟨identifier, byType, compact⟩) batch, ?_,
      decodeReport?_writeReport _ filled stand⟩
    have failed :
        (batch.map BatchEntry.reported).any (·.status == "error") =
          batch.any BatchEntry.isError := by
      simp only [List.any_map, Function.comp_def, status_reported_eq_error]
    rw [actionOf, asks.readCommand?_batch nonempty noEmpty, failed]
    exact congrArg Action.finish (runBatch_eq_report admits read paths _)
  · intro entry member arguments asks
    obtain ⟨each, inBatch, rfl⟩ := List.mem_map.mp member
    obtain ⟨path, inPaths, rfl⟩ := List.mem_map.mp inBatch
    have pathFilled : path ≠ "" := by
      rintro rfl
      exact noEmpty inPaths
    refine ⟨extractOutcome target path (extractFile read path (target.options .compact)), ?_,
      tells_reported target path _⟩
    rw [actionOf, asks.readCommand?_extract pathFilled]
    exact runExtract_eq_finish read path target

/-- Two files, of which one assigns an object, and no others. -/
def twoFiles : FileReader
  | "a.cs" => .ok "Body=new T\x7bx=1\x7d;"
  | "b.cs" => .ok "Other=1;"
  | _ => .error .notFound

/-- The report on two files, a missing one and one of them again agrees with extractions. -/
theorem batch_agrees_with_extract_twoFiles :
    decodingCheck.AdmitsJson ∧
      ∃ entries report,
        entries.map ReportedEntry.path = ["a.cs", "gone.cs", "b.cs", "a.cs"] ∧
          actionOf decodingCheck twoFiles
              ["batch", "--identifier=Body", "a.cs", "gone.cs", "b.cs", "a.cs"] =
            .finish ⟨if entries.any (·.status == "error") then 1 else 0, report ++ "\n",
              .lines []⟩ ∧
          decodeReport? report.toList = some entries ∧
          ∃ entry ∈ entries, ∃ outcome,
            actionOf decodingCheck twoFiles
                ["extract", "--identifier=Body", "--compact", "gone.cs"] = .finish outcome ∧
              entry.Tells outcome := by
  have noEmpty : "" ∉ ["a.cs", "gone.cs", "b.cs", "a.cs"] := by
    decide
  obtain ⟨entries, samePaths, reports, agree⟩ :=
    batch_agrees_with_extract admitsJson_decodingCheck twoFiles "Body" false (by simp) noEmpty
  obtain ⟨report, finished, decoded⟩ := reports false _ (asksFor_requestFor (by decide) _)
  have gone : "gone.cs" ∈ entries.map ReportedEntry.path := by
    rw [samePaths]
    decide
  obtain ⟨entry, member, samePath⟩ := List.mem_map.mp gone
  obtain ⟨outcome, extracted, tells⟩ :=
    agree entry member _ (asksFor_requestFor (by simp [samePath]) _)
  rw [samePath] at extracted
  exact ⟨admitsJson_decodingCheck, entries, report, samePaths, finished, decoded, entry, member,
    outcome, extracted, tells⟩

/--
A path without any characters is refused.  A batch on it prints nothing, though the
extraction from it alone ends as if there were no match.
-/
theorem no_report_for_emptyPath :
    (runProgram ⟨[], []⟩ ["extract", "--identifier=Body", "--compact", ""]).1.exitCode = 2 ∧
      (runProgram ⟨[], []⟩ ["batch", "--identifier=Body", ""]).1 = ⟨2, "", .usage⟩ ∧
      decodeReport? [] = none := by
  refine ⟨by decide +kernel, by decide +kernel, ?_⟩
  rfl

end InitializerJson
