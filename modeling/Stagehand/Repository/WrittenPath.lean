import Stagehand.System.FileTree
/-!
# Written paths

Paths as texts, put together and taken apart without a look at the file tree.
-/

namespace Stagehand.Repository

/-- The path written from a directory. A path from the root stands for itself. -/
def joined (directory path : String) : String :=
  if path.startsWith "/" then path
  else if directory.endsWith "/" then directory ++ path
  else directory ++ "/" ++ path

/-- The directory that holds what a path leads to. -/
def parent (path : String) : String :=
  let isSlash (c : Char) : Bool := c == '/'
  match path.toList.reverse with
  | [] => "."
  | reversed =>
    match reversed.dropWhile isSlash with
    | [] => "/"
    | body =>
      match body.dropWhile (!isSlash ·) with
      | [] => "."
      | rest =>
        match rest.dropWhile isSlash with
        | [] => "/"
        | rest => String.ofList rest.reverse

/-- The path with a slash at its end. -/
def asDirectory (path : String) : String :=
  if path.isEmpty ∨ path.endsWith "/" then path else path ++ "/"

/-- The written form of a directory: its place and a slash. -/
def writtenDirectory (place : Place) : String :=
  asDirectory (FileTree.written place)

/-- The path counts from where it is written: it starts with one or two dots and a slash. -/
def isRelative (path : String) : Bool :=
  path.startsWith "./" || path.startsWith "../"

/-- Follows names from a place without a look at the file tree. There is no way up from the
root. -/
def climb (place : Place) : List String → Option Place
  | [] => some place
  | name :: rest =>
    if name = "" ∨ name = "." then climb place rest
    else if name = ".." then
      if place.isEmpty then none else climb place.dropLast rest
    else climb (place ++ [name]) rest

end Stagehand.Repository
