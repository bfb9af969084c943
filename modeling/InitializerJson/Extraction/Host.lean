import InitializerJson.Extraction.FileSystem

namespace InitializerJson

/-!
# Hosts

Where a program runs: a tree of files, the directory that relative paths start from, and what
the host does to single files.  A file may be refused, for want of a permission or because its
name is too long, and a device may be full before all of a text is written.

A text is written as POSIX describes opening a file to be written from its start: the file is
made, or emptied of what it held, and then the bytes are put in.  A write that fails on opening
the file has no effect, but one that fails later leaves a beginning of the text.
-/

/-- What the host does to one file, beside holding it. -/
structure FileConditions where
  /-- Why the file cannot be read, if it cannot. -/
  readFault? : Option FileFault := none
  /-- Why the file cannot be opened to be written, if it cannot. -/
  openFault? : Option FileFault := none
  /-- How many bytes can be put in, and the fault of putting in more, if that is limited. -/
  limit? : Option (Nat × FileFault) := none

namespace FileConditions

/-- What becomes of some bytes that are put in a file, and how much of them it holds then. -/
def store
    (conditions : FileConditions)
    (content : ByteArray) :
    Except FileFault Unit × ByteArray :=
  match conditions.limit? with
  | none => (.ok (), content)
  | some (limit, fault) =>
      if limit < content.size then
        (.error fault, content.extract 0 limit)
      else
        (.ok (), content)

end FileConditions

/-- A tree of files, with a directory to start from and the conditions of each file. -/
structure Host where
  system : FileSystem
  workingDirectory : List String
  conditions : List String → FileConditions

namespace Host

open FileSystem

/-- The location that a path starts from: the root if it begins with a slash. -/
def startOf
    (host : Host)
    (path : String) :
    List String :=
  if path.toList.head? = some '/' then
    []
  else
    host.workingDirectory

/-- The text of the file at a path. -/
def read
    (host : Host)
    (path : String) :
    Except FileFault String :=
  if path = "" then
    .error .notFound
  else
    match host.system.walk (host.startOf path) (pathNames path) with
    | .error fault => .error fault
    | .ok location =>
        match (host.conditions location).readFault? with
        | some fault => .error fault
        | none =>
            if host.system.isDirectory location then
              .error .isDirectory
            else
              match host.system.files.lookup location with
              | none => .error .notFound
              | some content =>
                  match String.fromUTF8? content with
                  | some text => .ok text
                  | none => .error .notText

/--
The location of the file that is opened to write to a path, which makes or empties it.  Its
directory must be there, and its last name must not be that of a directory.
-/
def writeLocation
    (host : Host)
    (path : String) :
    Except FileFault (List String) :=
  if path = "" then
    .error .notFound
  else
    let names := pathNames path
    let solid := (names.reverse.dropWhile (· == "")).reverse
    let last := solid.getLast?.getD "."
    match host.system.walk (host.startOf path) solid.dropLast with
    | .error fault => .error fault
    | .ok directory =>
        if !host.system.isDirectory directory then
          .error (host.system.faultAt directory)
        else if solid.length < names.length || last = "." || last = ".." then
          .error .isDirectory
        else if host.system.isDirectory (directory ++ [last]) then
          .error .isDirectory
        else
          match (host.conditions (directory ++ [last])).openFault? with
          | some fault => .error fault
          | none => .ok (directory ++ [last])

/-- The host with some content in the file at a location. -/
def withFile
    (host : Host)
    (location : List String)
    (content : ByteArray) :
    Host :=
  { host with system := host.system.withFile location content }

/-- What becomes of writing a text to a path, and the host after it. -/
def write
    (host : Host)
    (path text : String) :
    Except FileFault Unit × Host :=
  match host.writeLocation path with
  | .error fault => (.error fault, host)
  | .ok location =>
      let stored := (host.conditions location).store text.toUTF8
      (stored.1, host.withFile location stored.2)

/-- The directory that files stand in which are given without the tree around them. -/
def scratch : List String :=
  ["tmp", "scratch"]

/-- A host with some files in its working directory, and nothing that stands in the way. -/
def around
    (system : FileSystem) :
    Host where
  system := system.inside scratch
  workingDirectory := scratch
  conditions := fun _ => {}

end Host

/-- The text of the file at a path, where the working directory holds some files. -/
def FileSystem.read
    (system : FileSystem)
    (path : String) :
    Except FileFault String :=
  (Host.around system).read path

end InitializerJson
