namespace InitializerJson

/-!
# Commands

What the arguments of the program ask for.  The program declares its commands and options only;
how they are read from arguments are the documented rules of the argument parser, `clap`:

* Options begin with a hyphen.  Behind `--` all arguments are positional, and so is a hyphen
  that stands alone.
* A name of several letters stands behind two hyphens, with its value in the next argument or
  behind an equals sign.  Several letters may stand behind one hyphen; the first that has a value
  takes the rest of the argument, with or without an equals sign, or else the next one.
* A value in the next argument does not begin with a hyphen, unless it is a hyphen alone.
* An option that chooses something is given once at most, and one that counts as often as it is
  wanted.
* A path is not empty.
* A call for help or for the version ends the reading where it stands.  `help` is a command
  too, whose argument is the name of another.

Paths that are no Unicode text are left out.
-/

/-- Which construction is wanted, and the layout of its JSON text. -/
structure Target where
  identifier : String
  byType : Bool
  compact : Bool
  deriving Repr, DecidableEq

/-- What the program is to do. -/
inductive Command where
  | extract (file : String) (target : Target) (output : Option String)
  | batch (files : List String) (target : Target)
  | tokens (file : String)
  | version
  | help
  deriving Repr, DecidableEq

/-- The commands that work on files. -/
inductive CommandName where
  | extract
  | batch
  | tokens
  deriving Repr, DecidableEq

/-- An argument by what it means. -/
inductive Argument where
  | file (path : String)
  | identifier (name : String)
  | output (path : String)
  | byType
  | compact
  | verbose
  | help
  deriving Repr, DecidableEq

/-- An option either stands alone or has a value. -/
inductive OptionForm where
  | flag (argument : Argument)
  | valued (argument : String → Argument)

namespace CommandName

/-- The command that a word names. -/
def ofWord? : String → Option CommandName
  | "extract" => some extract
  | "batch" => some batch
  | "tokens" => some tokens
  | _ => none

/-- The option that a name of several letters stands for. -/
def longOption?
    (command : CommandName)
    (name : String) :
    Option OptionForm :=
  if name = "verbose" then
    some (.flag .verbose)
  else if name = "help" then
    some (.flag .help)
  else if command = .tokens then
    none
  else if name = "by-type" then
    some (.flag .byType)
  else if name = "compact" then
    some (.flag .compact)
  else if name = "identifier" then
    some (.valued .identifier)
  else if name = "output" && command = .extract then
    some (.valued .output)
  else
    none

/-- The option that a letter stands for. -/
def shortOption?
    (command : CommandName)
    (letter : Char) :
    Option OptionForm :=
  if letter = 'v' then
    some (.flag .verbose)
  else if letter = 'h' then
    some (.flag .help)
  else if letter = 'o' && command = .extract then
    some (.valued .output)
  else
    none

end CommandName

/-- Whether an argument is an option and cannot be the value of another one. -/
def looksLikeOption
    (argument : List Char) :
    Bool :=
  match argument with
  | '-' :: _ :: _ => true
  | _ => false

/-- A value without the equals sign that attaches it. -/
def withoutEquals : List Char → List Char
  | '=' :: value => value
  | value => value

/--
The options that letters behind one hyphen stand for, by the rules for combined short options.  The first one with a
value takes the letters behind it as its value, or waits for the next argument.  A
call for help ends the reading.
-/
def readLetters?
    (command : CommandName) :
    List Char → Option (List Argument × Option (String → Argument))
  | [] => some ([], none)
  | letter :: letters =>
      match command.shortOption? letter with
      | none => none
      | some (.flag .help) => some ([.help], none)
      | some (.flag argument) =>
          (readLetters? command letters).map fun read => (argument :: read.1, read.2)
      | some (.valued argument) =>
          if letters.isEmpty then
            some ([], some argument)
          else
            some ([argument (String.ofList (withoutEquals letters))], none)

/-- The option that is written with two hyphens, by the rules for long options. -/
def readLong?
    (command : CommandName)
    (written : List Char) :
    Option (List Argument × Option (String → Argument)) :=
  let name := String.ofList (written.takeWhile (· != '='))
  match command.longOption? name, written.dropWhile (· != '=') with
  | some (.flag argument), [] => some ([argument], none)
  | some (.valued argument), [] => some ([], some argument)
  | some (.valued argument), _ :: value => some ([argument (String.ofList value)], none)
  | _, _ => none

/-- The options of one argument, which is no positional one. -/
def readOption?
    (command : CommandName) :
    List Char → Option (List Argument × Option (String → Argument))
  | '-' :: '-' :: written => readLong? command written
  | _ :: letters => readLetters? command letters
  | [] => none

/--
The arguments of a command by what they mean, up to a call for help: what
stands behind that is not looked at.
-/
def readArguments?
    (command : CommandName) :
    List String → Option (List Argument)
  | [] => some []
  | "--" :: paths => some (paths.map .file)
  | argument :: rest =>
      if looksLikeOption argument.toList then
        match readOption? command argument.toList with
        | none => none
        | some (read, none) =>
            if read.contains .help then
              some read
            else
              (readArguments? command rest).map (read ++ ·)
        | some (read, some awaited) =>
            match rest with
            | [] => none
            | value :: rest =>
                if looksLikeOption value.toList then
                  none
                else
                  (readArguments? command rest).map (read ++ awaited value :: ·)
      else
        (readArguments? command rest).map (.file argument :: ·)

namespace Argument

/-- The path of a positional argument. -/
def file? : Argument → Option String
  | file path => some path
  | _ => none

/-- The name that an identifier option gives. -/
def identifier? : Argument → Option String
  | identifier name => some name
  | _ => none

/-- The path that an output option gives. -/
def output? : Argument → Option String
  | output path => some path
  | _ => none

end Argument

/-- The value that at most one argument gives; more of them are an error. -/
def atMostOne
    {α : Type} :
    List α → Option (Option α)
  | [] => some none
  | [value] => some (some value)
  | _ => none

/--
The command of some arguments.  Options that choose something may be given once,
paths must not be empty, and only a batch has several files.  A call for help
needs no file, but excuses nothing that stands before it.
-/
def CommandName.assemble?
    (name : CommandName)
    (arguments : List Argument) :
    Option Command := do
  let files := arguments.filterMap Argument.file?
  let identifier ← atMostOne (arguments.filterMap Argument.identifier?)
  let output ← atMostOne (arguments.filterMap Argument.output?)
  if 1 < arguments.count .byType || 1 < arguments.count .compact then
    none
  else if files.contains "" || output == some "" then
    none
  else if 1 < files.length && name != .batch then
    none
  else if arguments.contains .help then
    some .help
  else
    let target : Target :=
      ⟨identifier.getD "Body", arguments.contains .byType, arguments.contains .compact⟩
    match name, files with
    | .extract, [file] => some (.extract file target output)
    | .tokens, [file] => some (.tokens file)
    | .batch, _ :: _ => some (.batch files target)
    | _, _ => none

/-- The command that a name and the arguments behind it ask for. -/
def CommandName.command?
    (name : CommandName)
    (arguments : List String) :
    Option Command :=
  (readArguments? name arguments).bind name.assemble?

/-- The parser's own command: help about one command, or about the program as a whole. -/
def readHelpTopic? : List String → Option Command
  | [] => some .help
  | [topic] =>
      if topic = "help" || (CommandName.ofWord? topic).isSome then
        some .help
      else
        none
  | _ => none

/--
Whether letters behind one hyphen in front of the command ask for the version or for help, by
the rules for combined short options.
-/
def readLeadingLetters? : List Char → Option (Option Command)
  | [] => some none
  | 'v' :: letters => readLeadingLetters? letters
  | 'V' :: _ => some (some .version)
  | 'h' :: _ => some (some .help)
  | _ => none

/-- What the arguments ask for; nothing if they are not well formed. -/
def readCommand? : List String → Option Command
  | [] => none
  | argument :: rest =>
      match CommandName.ofWord? argument with
      | some name => name.command? rest
      | none =>
          if argument = "--version" then
            some .version
          else if argument = "--help" then
            some .help
          else if argument = "help" then
            readHelpTopic? rest
          else if argument = "--verbose" then
            readCommand? rest
          else
            match argument.toList with
            | '-' :: letter :: letters =>
                match readLeadingLetters? (letter :: letters) with
                | some (some command) => some command
                | some none => readCommand? rest
                | none => none
            | _ => none

end InitializerJson
