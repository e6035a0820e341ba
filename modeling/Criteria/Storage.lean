/-!
# Stored files

What may be found under a path, and a directory held as a value: the files
that it holds by name.  A path leads into the directory when nothing but the
name of a file is left of it once empty parts and dots are dropped.
-/

namespace Criteria

/-- What is found under a path. -/
inductive Stored where
  | missing
  | directory
  /-- Something that may not be opened. -/
  | inaccessible
  | file (bytes : List UInt8)
  deriving DecidableEq

namespace Stored

/-- Whether what is found can be opened. -/
def opens : Stored → Bool
  | .directory | .file _ => true
  | .missing | .inaccessible => false

/-- The bytes of a file. -/
def bytes? : Stored → Option (List UInt8)
  | .file bytes => some bytes
  | _ => none

end Stored

/-- A directory: the bytes of its files by their names. -/
structure Directory where
  files : List (String × List UInt8)

namespace Directory

/-- The parts of a path that lead somewhere. -/
def partsOf (path : String) : List String :=
  ((path.toList.splitOn '/').map String.ofList).filter fun part =>
    part ≠ "" && part ≠ "."

/--
Whether a path starts at the root of all directories, of which nothing is held.
-/
def isAbsolute (path : String) : Bool :=
  path.startsWith "/"

/-- What is found under a path from a directory. -/
def find (directory : Directory) (path : String) : Stored :=
  if path.isEmpty then .missing
  else
    match partsOf path with
    | [] | [".."] => .directory
    | name :: below =>
        if isAbsolute path then .missing
        else
          match directory.files.lookup name with
          | none => .missing
          | some bytes =>
              if below.isEmpty && !path.endsWith "/" then .file bytes
              else .inaccessible

/-- The name of the file that a path leads to, if there may be one. -/
def fileName? (path : String) : Option String :=
  if isAbsolute path || path.endsWith "/" then none
  else
    match partsOf path with
    | [".."] => none
    | [name] => some name
    | _ => none

/-- The same directory with other bytes in a file. -/
def put (directory : Directory) (name : String) (bytes : List UInt8) :
    Directory :=
  ⟨(name, bytes) :: directory.files.filter fun file => file.1 != name⟩

/--
The directory once a file under a path holds the bytes given, if there may be
one.
-/
def write? (directory : Directory) (path : String) (bytes : List UInt8) :
    Option Directory :=
  (fileName? path).map fun name => directory.put name bytes

/--
The directory once bytes are put at the end of a file, if there may be one.
-/
def append? (directory : Directory) (path : String) (bytes : List UInt8) :
    Option Directory :=
  (fileName? path).map fun name =>
    directory.put name ((directory.files.lookup name).getD [] ++ bytes)

end Directory

end Criteria
