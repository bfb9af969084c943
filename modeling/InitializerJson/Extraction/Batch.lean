import InitializerJson.Extraction.Host
import InitializerJson.Extraction.Lookup

namespace InitializerJson

/-!
# Extraction from files

One file, or several in order.  Files do not depend on each other: the outcome
of each stands by itself, errors included.
-/

open Lexical

/-- Why nothing could be extracted from a file. -/
inductive ExtractionError where
  | unreadable (path : String) (fault : FileFault)
  | malformed (error : SyntaxError)
  deriving Repr, DecidableEq

namespace ExtractionError

/-- The error in one line. -/
def message : ExtractionError → String
  | unreadable path fault => "failed to read " ++ path ++ ": " ++ fault.message
  | malformed error => error.message

/-- The messages from the error down to what it came from. -/
def causes
    (error : ExtractionError) :
    List String :=
  match error with
  | unreadable _ fault => [error.message, fault.message]
  | malformed _ => [error.message]

end ExtractionError

/-- A way to read the text of the file at a path. -/
abbrev FileReader : Type :=
  String → Except FileFault String

/-- The JSON text of the wanted construction in a file. -/
def extractFile
    (read : FileReader)
    (path : String)
    (options : Options) :
    Except ExtractionError (Lookup String) :=
  match read path with
  | .error fault => .error (.unreadable path fault)
  | .ok source =>
      match extractJson source options with
      | .error error => .error (.malformed error)
      | .ok lookup => .ok lookup

/-- What came of one file among several. -/
structure BatchEntry where
  path : String
  result : Except ExtractionError (Lookup String)

/-- What came of each of several files. -/
def extractBatch
    (read : FileReader)
    (paths : List String)
    (options : Options) :
    List BatchEntry :=
  paths.map fun path => ⟨path, extractFile read path options⟩

/-- A check of texts: why a text is no JSON document, if it is found to be none. -/
abbrev DocumentCheck : Type :=
  String → Option String

/-- The check that finds fault with no text. -/
def DocumentCheck.admitAll : DocumentCheck :=
  fun _ => none

/-- A text extracted from a file in which a check found fault. -/
structure MalformedBody where
  path : String
  fault : String
  deriving Repr, DecidableEq

namespace BatchEntry

/-- The entry as it is, if a check finds no fault with its JSON text. -/
def checked
    (check : DocumentCheck)
    (entry : BatchEntry) :
    Except MalformedBody BatchEntry :=
  match entry.result with
  | .ok (.found json) =>
      match check json with
      | some fault => .error ⟨entry.path, fault⟩
      | none => .ok entry
  | _ => .ok entry

/-- Whether nothing could be extracted because of an error. -/
def isError
    (entry : BatchEntry) :
    Bool :=
  match entry.result with
  | .error _ => true
  | .ok _ => false

/-- The name of what came of a file. -/
def status
    (entry : BatchEntry) :
    String :=
  match entry.result with
  | .ok (.found _) => "extracted"
  | .ok .noMatch => "no_match"
  | .ok .noInitializer => "no_initializer"
  | .error _ => "error"

/-- The extracted JSON text as it is, the error's message, or null. -/
def body
    (entry : BatchEntry) :
    List Char :=
  match entry.result with
  | .ok (.found json) => json.toList
  | .ok _ => ['n', 'u', 'l', 'l']
  | .error error => quote error.message

/-- The entry as a member of the report. -/
def write
    (layout : Layout)
    (entry : BatchEntry) :
    List Char :=
  layout.enclose 1 '{' '}'
    [
      layout.member "path" (quote entry.path),
      layout.member "status" (quote entry.status),
      layout.member "body" entry.body
    ]

end BatchEntry

/-- The report on several files: a JSON array of one object for each. -/
def writeReport
    (layout : Layout)
    (entries : List BatchEntry) :
    String :=
  String.ofList (layout.enclose 0 '[' ']' (entries.map (BatchEntry.write layout)))

end InitializerJson
