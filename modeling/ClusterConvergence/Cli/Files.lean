/-!
# Files

What reading a file by its path comes to.  `Files` is a directory as a value, with the files and
directories below it; `Files.read` follows a path from it step by step.
-/

namespace ClusterConvergence

/-- Why a file cannot be read. -/
inductive ReadFault where
  | notFound
  /-- The path goes on behind something that is no directory. -/
  | notDirectory
  /-- The path leads to a directory. -/
  | isDirectory
  /-- A name in the path, or the path itself, is too long. -/
  | nameTooLong
  /-- The path has a character that no path can have. -/
  | nulInPath
  /-- The content is no text. -/
  | notText
  /-- Any other fault, in its own words. -/
  | other (report : String)
  deriving DecidableEq, Repr

/-- The wording of a fault. -/
def ReadFault.message : ReadFault → String
  | .notFound => "No such file or directory (os error 2)"
  | .notDirectory => "Not a directory (os error 20)"
  | .isDirectory => "Is a directory (os error 21)"
  | .nameTooLong => "File name too long (os error 36)"
  | .nulInPath => "file name contained an unexpected NUL byte"
  | .notText => "stream did not contain valid UTF-8"
  | .other report => report

/-- What stands at a path. -/
inductive Entry where
  | directory
  | text (content : String)
  /-- A file whose content is no text. -/
  | data
  deriving DecidableEq, Repr

/-- A directory: what is below it, each at its path. -/
structure Files where
  entries : List (List String × Entry)
  deriving DecidableEq, Repr

namespace Files

/-- The parts of a path between its slashes. -/
def partsOf (path : String) : List String :=
  path.splitOn "/"

/-- The directory of a list of files and directories. -/
def ofList (entries : List (String × Entry)) : Files :=
  ⟨entries.map fun e => ((partsOf e.1).filter fun part => part != "" && part != ".", e.2)⟩

/-- What stands at a place; on the way to an entry there are directories. -/
def at? (files : Files) (place : List String) : Option Entry :=
  if place.isEmpty then some .directory
  else
    match files.entries.find? (·.1 == place) with
    | some e => some e.2
    | none => if files.entries.any (place.isPrefixOf ·.1) then some .directory else none

/-- Whether a part of a path leads to no file. -/
def isStep (part : String) : Bool :=
  part == "" || part == "." || part == ".."

/-- Whether a name is longer than any entry's can be. -/
def isOverlong (part : String) : Bool :=
  part.utf8ByteSize > 255

/-- Follow a path outside of the directory: there are directories above it, and nothing is known to be
in them. -/
def outside : List String → Except ReadFault Entry
  | [] => .ok .directory
  | part :: parts =>
    if isStep part then outside parts
    else if isOverlong part then .error .nameTooLong
    else .error .notFound

/-- Follow a path from a place on. -/
def follow (files : Files) (place : List String) : List String → Except ReadFault Entry
  | [] =>
    match files.at? place with
    | some entry => .ok entry
    | none => .error .notFound
  | part :: parts =>
    match files.at? place with
    | none => .error .notFound
    | some .directory =>
      if part = "" || part = "." then follow files place parts
      else if part = ".." then
        if place.isEmpty then outside parts else follow files place.dropLast parts
      else if isOverlong part then .error .nameTooLong
      else follow files (place ++ [part]) parts
    | some _ => .error .notDirectory

/-- What stands at a path.  The empty path leads nowhere; a path from the root is outside. -/
def lookup (files : Files) (path : String) : Except ReadFault Entry :=
  if path.toList.contains (Char.ofNat 0) then .error .nulInPath
  else if path = "" then .error .notFound
  else if path.utf8ByteSize > 4095 then .error .nameTooLong
  else
    match partsOf path with
    | "" :: parts => outside parts
    | parts => files.follow [] parts

/-- The text at a path. -/
def read (files : Files) (path : String) : Except ReadFault String := do
  match ← files.lookup path with
  | .text content => return content
  | .directory => throw .isDirectory
  | .data => throw .notText

end Files

end ClusterConvergence
