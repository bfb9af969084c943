import InitializerJson.CommandLine.Command
import InitializerJson.Extraction.Batch
import InitializerJson.Lexical.Listing

namespace InitializerJson

/-!
# Running a command

A command reads its files and comes to an outcome, or to a text that is to be
saved first.  Nothing is written before the outcome of the extraction is known.
-/

open Lexical

/--
What the program reports apart from its output.  Log lines are left out, so that no lines means
that the run failed in nothing, and not that it logged nothing: a batch logs a warning for every
file at fault.
-/
inductive Diagnostics where
  /-- The arguments were not understood. -/
  | usage
  | lines (lines : List String)
  deriving Repr, DecidableEq

/-- How a run of the program ends. -/
structure Outcome where
  exitCode : Nat
  output : String
  diagnostics : Diagnostics
  deriving Repr, DecidableEq

namespace Outcome

/-- A good end with some output. -/
def success
    (output : String) :
    Outcome :=
  ⟨0, output, .lines []⟩

/-- The end of a run whose arguments were not understood. -/
def misused : Outcome :=
  ⟨2, "", .usage⟩

end Outcome

/-- The lines of a text. -/
def textLines
    (text : String) :
    List String :=
  (splitAtEach '\n' text.toList).map String.ofList

/--
The lines of a cause, its first one behind a label and the others indented, as the error library
`anyhow` documents its reports.
-/
def labelled
    (label indentation cause : String) :
    List String :=
  match textLines cause with
  | [] => []
  | first :: others => (label ++ first) :: others.map (indentation ++ ·)

/-- The lines of the causes of a failure: by the same rules, several are numbered from zero. -/
def causeLines : List String → List String
  | [cause] => labelled "    " "    " cause
  | causes =>
      (causes.zipIdx.map fun cause =>
        labelled ("    " ++ toString cause.2 ++ ": ") "       " cause.1).flatten

/--
The end of a run that failed while doing something, for some causes.  The report has the form
that `anyhow` gives to the error that a program returns: its context, then the causes.
-/
def Outcome.failure
    (doing : String)
    (causes : List String) :
    Outcome :=
  ⟨1, "", .lines
    (textLines ("Error: " ++ doing) ++ "" :: "Caused by:" :: causeLines causes)⟩

/-- What a command comes to: an end, or a text to be saved at a path. -/
inductive Action where
  | finish (outcome : Outcome)
  | save (path text : String)
  deriving Repr, DecidableEq

namespace Target

/-- The way in which a target is addressed. -/
def addressing
    (target : Target) :
    Addressing :=
  if target.byType then
    .typeName
  else
    .assignment

/-- The layout that a target asks for. -/
def layout
    (target : Target) :
    Layout :=
  if target.compact then
    .compact
  else
    .indented

/-- The options of an extraction in a given layout. -/
def options
    (target : Target)
    (layout : Layout) :
    Options :=
  ⟨target.identifier, target.addressing, layout⟩

/-- The end of a run that found no construction in a file. -/
def missing
    (target : Target)
    (file : String) :
    Outcome :=
  let kind := if target.byType then "construction of type" else "assignment to"
  ⟨2, "", .lines (textLines
    ("No " ++ kind ++ " '" ++ target.identifier ++ "' found in " ++ file))⟩

end Target

/-- What the extraction from one file comes to. -/
def runExtract
    (read : FileReader)
    (file : String)
    (target : Target)
    (output : Option String) :
    Action :=
  match extractFile read file (target.options target.layout) with
  | .error error => .finish (.failure ("Failed to extract from " ++ file) error.causes)
  | .ok .noInitializer => .finish (.success "")
  | .ok .noMatch => .finish (target.missing file)
  | .ok (.found json) =>
      match output with
      | some path => .save path json
      | none => .finish (.success (json ++ "\n"))

/--
The end of a run that reports on several files.  Files at fault count in the exit code; the
warnings that are logged for them are left out.
-/
def Outcome.report
    (target : Target)
    (entries : List BatchEntry) :
    Outcome :=
  ⟨if entries.any BatchEntry.isError then 1 else 0,
    writeReport target.layout entries ++ "\n", .lines []⟩

/-- The end of a run in which a check found fault with an extracted text. -/
def Outcome.malformed
    (body : MalformedBody) :
    Outcome :=
  .failure ("Extracted JSON for " ++ body.path ++ " is malformed") [body.fault]

/--
What the report on several files comes to; bodies are always compact.  Each body
is checked before it is put into the report as it is, and the first one that is
at fault ends the run.
-/
def runBatch
    (check : DocumentCheck)
    (read : FileReader)
    (files : List String)
    (target : Target) :
    Outcome :=
  match (extractBatch read files (target.options .compact)).mapM (BatchEntry.checked check) with
  | .error body => .malformed body
  | .ok entries => .report target entries

/-- What the listing of the tokens of a file comes to. -/
def runTokens
    (read : FileReader)
    (file : String) :
    Outcome :=
  match read file with
  | .error fault => .failure ("Failed to read file: " ++ file) [fault.message]
  | .ok source =>
      match tokenize source with
      | .error error => .failure ("Failed to tokenize " ++ file) [error.message]
      | .ok tokens => .success (listing tokens)

/-- The name and version of the program. -/
def versionText : String :=
  "fixture 0.1.0\n"

/--
A summary of the commands, in the place of the help that the argument parser composes from their
declarations.  The wording of that help is left out, and no statement is made about this one.
-/
def helpText : String :=
  "fixture extract FILE [--identifier NAME] [--by-type] [--compact] [-o FILE]\n" ++
    "fixture batch FILES [--identifier NAME] [--by-type] [--compact]\n" ++
    "fixture tokens FILE\n"

/-- What a command comes to. -/
def Command.run
    (check : DocumentCheck)
    (read : FileReader) :
    Command → Action
  | extract file target output => runExtract read file target output
  | batch files target => .finish (runBatch check read files target)
  | tokens file => .finish (runTokens read file)
  | version => .finish (.success versionText)
  | help => .finish (.success helpText)

/-- The end of a run that could not save its text. -/
def Outcome.unsaved
    (path : String)
    (fault : FileFault) :
    Outcome :=
  .failure ("Failed to write file: " ++ path) [fault.message]

/-- The end of a run, and the host after it. -/
def Action.perform
    (host : Host) :
    Action → Outcome × Host
  | finish outcome => (outcome, host)
  | save path text =>
      match host.write path text with
      | (.ok _, later) => (.success "", later)
      | (.error fault, later) => (.unsaved path fault, later)

/-- What some arguments come to, with a way to check texts and one to read files. -/
def actionOf
    (check : DocumentCheck)
    (read : FileReader)
    (arguments : List String) :
    Action :=
  match readCommand? arguments with
  | none => .finish .misused
  | some command => command.run check read

/--
A run of the program with some arguments on a host.  What is extracted is always a JSON
document, so that no check is made of it: any that admits such documents would lead to the
same run.
-/
def Host.run
    (host : Host)
    (arguments : List String) :
    Outcome × Host :=
  (actionOf .admitAll host.read arguments).perform host

/--
A run of the program with some arguments, where the working directory holds some files; it makes
no directories.
-/
def runProgram
    (system : FileSystem)
    (arguments : List String) :
    Outcome × FileSystem :=
  let (outcome, host) := (Host.around system).run arguments
  (outcome, { system with files := host.system.filesBelow Host.scratch })

end InitializerJson
