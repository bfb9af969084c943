import InitializerJson.CommandLine.Run

namespace InitializerJson

/-!
# The program

The outer layer: it reads the files that a command names, lets the command come
to an outcome, and writes what is to be written.
-/

/-- The files that a command reads. -/
def Command.paths : Command → List String
  | extract file _ _ => [file]
  | batch files _ => files
  | tokens file => [file]
  | version => []
  | help => []

/--
The fault behind an error of the operating system.  Error 20 is a path that
leads through a file, and its number may be given with a minus sign.
-/
def FileFault.ofError : IO.Error → FileFault
  | .noFileOrDirectory .. => .notFound
  | .inappropriateType _ code _ =>
      if code = 20 || code = -20 then
        .notDirectory
      else
        .isDirectory
  | error => .other (toString error)

/-- The text of a file, or why it cannot be read. -/
def readText
    (path : String) :
    IO (Except FileFault String) := do
  try
    let content ← IO.FS.readBinFile path
    match String.fromUTF8? content with
    | some text => return .ok text
    | none => return .error .notText
  catch error =>
    return .error (.ofError error)

/-- Print how a run ended. -/
def Outcome.print
    (outcome : Outcome) :
    IO UInt32 := do
  IO.print outcome.output
  match outcome.diagnostics with
  | .usage => IO.eprint helpText
  | .lines lines =>
      for line in lines do
        IO.eprintln line
  return UInt32.ofNat outcome.exitCode

/-- Save a text, or tell why it cannot be saved. -/
def saveText
    (path text : String) :
    IO Outcome := do
  try
    IO.FS.writeFile path text
    return .success ""
  catch error =>
    return .unsaved path (.ofError error)

/-- Do what a command came to. -/
def Action.carryOut
    (action : Action) :
    IO UInt32 := do
  match action with
  | .finish outcome => outcome.print
  | .save path text =>
      let outcome ← saveText path text
      outcome.print

/-- Run a command on the files of the working directory. -/
def Command.carryOut
    (command : Command) :
    IO UInt32 := do
  let texts ← command.paths.mapM fun path => do
    let text ← readText path
    return (path, text)
  let read : FileReader := fun path =>
    (texts.lookup path).getD (.error .notFound)
  (command.run .admitAll read).carryOut

end InitializerJson

/-- Run the command that the arguments ask for. -/
def main
    (arguments : List String) :
    IO UInt32 :=
  match InitializerJson.readCommand? arguments with
  | none => InitializerJson.Outcome.misused.print
  | some command => command.carryOut
