import InitializerJson.Remainder
import InitializerJson.Value.Members

namespace InitializerJson

/-!
# Files

A tree of files and directories, as a map from locations to contents, and the faults of reading
and writing them.  A location is the list of names that lead to it from the root of the tree,
which is a directory and stands above itself.  Links, pipes and devices are left out.
-/

/-- Why a file cannot be read or written. -/
inductive FileFault where
  | notFound
  | isDirectory
  | notDirectory
  /-- The content is no UTF-8 text. -/
  | notText
  /-- Any other fault, in the words of the operating system. -/
  | other (words : String)
  deriving Repr, DecidableEq

namespace FileFault

/-- The wording of a fault. -/
def message : FileFault → String
  | notFound => "No such file or directory (os error 2)"
  | isDirectory => "Is a directory (os error 21)"
  | notDirectory => "Not a directory (os error 20)"
  | notText => "stream did not contain valid UTF-8"
  | other words => words

end FileFault

/-- Files and directories by their locations. -/
structure FileSystem where
  files : List (List String × ByteArray)
  /-- The directories that need not hold a file. -/
  directories : List (List String)

namespace FileSystem

/-- The names that a path is written with. -/
def pathNames
    (path : String) :
    List String :=
  (splitAtEach '/' path.toList).map String.ofList

/-- Whether a location is a file. -/
def isFile
    (system : FileSystem)
    (location : List String) :
    Bool :=
  (system.files.lookup location).isSome

/-- Whether a location is a directory: the root, one of its own, or on the way to a file. -/
def isDirectory
    (system : FileSystem)
    (location : List String) :
    Bool :=
  location.isEmpty
    || system.directories.any location.isPrefixOf
    || system.files.any fun file =>
      location.isPrefixOf file.1 && location.length < file.1.length

/-- Why a location that should be a directory is none. -/
def faultAt
    (system : FileSystem)
    (location : List String) :
    FileFault :=
  if system.isFile location then
    .notDirectory
  else
    .notFound

/--
The location that names lead to from another one.  Every step starts from a
directory.
-/
def walk
    (system : FileSystem)
    (location : List String) :
    List String → Except FileFault (List String)
  | [] => .ok location
  | name :: names =>
      if system.isDirectory location then
        if name = "" || name = "." then
          system.walk location names
        else if name = ".." then
          system.walk location.dropLast names
        else
          system.walk (location ++ [name]) names
      else
        .error (system.faultAt location)

/-- The files with some content at a location. -/
def withFile
    (system : FileSystem)
    (location : List String)
    (content : ByteArray) :
    FileSystem :=
  { system with files := putEntry location content system.files }

/-- The same files and directories inside a directory of a tree that holds nothing else. -/
def inside
    (system : FileSystem)
    (directory : List String) :
    FileSystem where
  files := system.files.map fun file => (directory ++ file.1, file.2)
  directories := directory :: system.directories.map (directory ++ ·)

/-- The files inside a directory, by the locations that they have there. -/
def filesBelow
    (system : FileSystem)
    (directory : List String) :
    List (List String × ByteArray) :=
  system.files.filterMap fun file =>
    (directory.isPrefixOf? file.1).map fun location => (location, file.2)

/-- The files whose content is not what it was in an earlier state, with their names. -/
def changesSince
    (system earlier : FileSystem) :
    List (String × ByteArray) :=
  (system.files.filter fun file => earlier.files.lookup file.1 != some file.2).map fun file =>
    ("/".intercalate file.1, file.2)

end FileSystem

end InitializerJson
