import Stagehand.Repository.OpenError
import Stagehand.Repository.WrittenPath
import Stagehand.System.Process
/-!
# Finding the repository

A repository is looked for at the place that a path leads to and then at every place above it but
the root; at each the directory `.git` comes first and the place itself second. A file `.git` links
to the repository, and ends the search. A directory is a repository when it holds a file `HEAD`, and
when it, or the common directory it links to, holds the directories `objects` and `refs`.
-/

namespace Stagehand.Repository

/-- The text of a link file: what stands before a NUL, without the white space at the end of the
file. -/
def linkText (content : String) : List Char :=
  Config.untilNul (Text.stripEnd Config.isSpace content.toList)

/-- The target that the content of a link file `.git` names: what follows `gitdir:`. -/
def linkTarget? (content : String) : Option String :=
  let text := Text.stripEnd Config.isSpace content.toList
  let marker := "gitdir:".toList
  if marker.isPrefixOf text ∧ marker.length < text.length then
    some (String.ofList (Config.untilNul ((text.drop marker.length).dropWhile Config.isSpace)))
  else none

/-- Where a repository was found. -/
structure Location where
  /-- The directory of the repository. -/
  directory : Place
  /-- The directory that it shares with other work trees; its own for most. -/
  common : Place
  /-- The path that links the work tree and the repository, if there is one. -/
  link : Option String
  /-- The directory over the place that was found. -/
  above : Place

/-- A file tree with a current directory. -/
structure Ground where
  tree : FileTree
  current : Place

namespace Ground

/-- The place that a path leads to, as a failure to open says it. -/
def follow (ground : Ground) (path : String) : Except OpenError Place :=
  (ground.tree.follow ground.current path).mapError (.unresolved path)

/-- The common directory of a directory: the one that its file `commondir` links to, or itself. -/
def commonDirectory (ground : Ground) (place : Place) : Except OpenError Place :=
  match ground.tree.entry? (place ++ ["commondir"]) with
  | some (.file content _) =>
    let link := String.ofList (linkText content)
    ground.follow (if isRelative link then joined (writtenDirectory place) link else link)
  | _ => .ok place

/-- The common directory of the repository at a place, if there is one. -/
def repositoryAt (ground : Ground) (place : Place) : Except OpenError (Option Place) := do
  let common ← ground.commonDirectory place
  let complete :=
    ground.tree.isFile (place ++ ["HEAD"]) &&
    ground.tree.entry? (common ++ ["objects"]) == some .directory &&
    ground.tree.entry? (common ++ ["refs"]) == some .directory
  return if complete then some common else none

/-- The path that a file in a directory links to. -/
def readLink (ground : Ground) (place : Place) (name : String) : Except OpenError String :=
  match ground.tree.entry? (place ++ [name]) with
  | some (.file content _) =>
    let link := String.ofList (linkText content)
    if isRelative link then
      match climb place (link.splitOn "/") with
      | some place => .ok (FileTree.written place)
      | none => .error .aboveRoot
    else .ok link
  | _ => .error .directoryRead

/-- The repository that a link file at a place leads to. -/
def followLink (ground : Ground) (place : Place) (content : String) :
    Except OpenError (Option Location) :=
  match linkTarget? content with
  | none => .error (.malformedLink (FileTree.written place))
  | some target => do
    let directory ← ground.follow (joined (FileTree.written place.dropLast) target)
    let common? ← ground.repositoryAt directory
    return common?.map fun common =>
      { directory, common, link := some (FileTree.written place), above := place.dropLast }

/-- The repository in a directory. -/
def inDirectory (ground : Ground) (place : Place) : Except OpenError (Option Location) := do
  let common? ← ground.repositoryAt place
  return common?.map fun common =>
    { directory := place, common
      link := (ground.readLink place "gitdir").toOption
      above := place.dropLast }

/-- The repository at the first of the places that has one. -/
def firstOf (ground : Ground) : List Place → Except OpenError (Option Location)
  | [] => .ok none
  | place :: rest =>
    match ground.tree.entry? place with
    | some .directory =>
      match ground.inDirectory place with
      | .ok none => firstOf ground rest
      | found => found
    | some (.file content _) =>
      if place.getLast? = some ".git" then ground.followLink place content
      else firstOf ground rest
    | _ => firstOf ground rest

end Ground

/-- The places where the repository of a place may be: two, and those above it. -/
def placesAt (place : Place) : List Place :=
  [place ++ [".git"], place]

/-- The places to look at from a place upwards, without the root. -/
def placesAbove (place : Place) : List Place :=
  (List.range place.length).reverse.flatMap fun n => if n = 0 then [] else placesAt (place.take n)

/-- The repository at a path, or also above it. -/
def Ground.locate (ground : Ground) (upwards : Bool) (path : String) :
    Except OpenError Location := do
  let place ← ground.follow path
  match ← ground.firstOf (placesAt place ++ if upwards then placesAbove place else []) with
  | some location => return location
  | none => throw (.notFound path)

/-- The repository that a path lies in. -/
def Ground.search (ground : Ground) (path : String) : Except OpenError Location :=
  if hasNul path then .error .nul else ground.locate true path

end Stagehand.Repository
