import Stagehand.System.Error
/-!
# The file tree

A tree of named entries, given as the list of their places. A path is walked one name at a time from
the root or from the current directory; an empty name and a dot stay, two dots go up, and every name
passed must be a directory.
-/

namespace Stagehand

/-- The names that lead from the root to a place. -/
abbrev Place := List String

/-- What stands at a place. -/
inductive Entry
  | directory
  | file (content : String) (executable : Bool)
  | device
  deriving DecidableEq, Repr

/-- The entries of a file system; of two at one place the first counts. -/
structure FileTree where
  entries : List (Place × Entry) := []

namespace FileTree

/-- What stands at a place. The root is always a directory. -/
def entry? (tree : FileTree) (place : Place) : Option Entry :=
  if place.isEmpty then some .directory
  else (tree.entries.find? (·.1 == place)).map (·.2)

/-- Puts an entry at a place. -/
def put (tree : FileTree) (place : Place) (entry : Entry) : FileTree :=
  { entries := (place, entry) :: tree.entries }

/-- Makes the place a directory, with all directories above it that are missing. -/
def addDirectory (tree : FileTree) (place : Place) : FileTree :=
  (List.range (place.length + 1)).foldl
    (fun tree n =>
      let above := place.take n
      if (tree.entry? above).isSome then tree else tree.put above .directory)
    tree

/-- Puts a file at the place, with all directories above it that are missing. -/
def addFile (tree : FileTree) (place : Place) (content : String) (executable : Bool) : FileTree :=
  (tree.addDirectory place.dropLast).put place (.file content executable)

/-- The longest name, in bytes. -/
def longestName : Nat := 255

/-- The least length of a path, in bytes, that is refused. -/
def pathLimit : Nat := 4096

/-- Follows names from a place. -/
def walk (tree : FileTree) (place : Place) : List String → Except SystemError Place
  | [] => .ok place
  | name :: rest =>
    if tree.entry? place ≠ some .directory then .error .notADirectory
    else if name = "" ∨ name = "." then tree.walk place rest
    else if name = ".." then tree.walk place.dropLast rest
    else if longestName < name.utf8ByteSize then .error .nameTooLong
    else if (tree.entry? (place ++ [name])).isNone then .error .noSuchEntry
    else tree.walk (place ++ [name]) rest

/-- The place that a path of any length leads to from the current directory. -/
def follow (tree : FileTree) (current : Place) (path : String) : Except SystemError Place :=
  if path = "" then .error .noSuchEntry
  else tree.walk (if path.startsWith "/" then [] else current) (path.splitOn "/")

/-- The place that a path leads to from the current directory. -/
def resolve (tree : FileTree) (current : Place) (path : String) : Except SystemError Place :=
  if pathLimit ≤ path.utf8ByteSize then .error .nameTooLong else tree.follow current path

/-- What stands where a path leads to. -/
def entryAt? (tree : FileTree) (current : Place) (path : String) : Option Entry :=
  match tree.resolve current path with
  | .ok place => tree.entry? place
  | .error _ => none

/-- A regular file stands at the place. -/
def isFile (tree : FileTree) (place : Place) : Bool :=
  match tree.entry? place with
  | some (.file ..) => true
  | _ => false

/-- The path leads to a directory. -/
def isDirectory (tree : FileTree) (current : Place) (path : String) : Bool :=
  tree.entryAt? current path == some .directory

/-- The path leads to a file that may be run. -/
def isProgram (tree : FileTree) (current : Place) (path : String) : Bool :=
  match tree.entryAt? current path with
  | some (.file _ executable) => executable
  | _ => false

/-- The written form of a place. -/
def written (place : Place) : String :=
  "/" ++ "/".intercalate place

end FileTree

end Stagehand
