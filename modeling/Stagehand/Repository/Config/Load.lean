import Stagehand.Repository.Config.Syntax
import Stagehand.Repository.OpenError
import Stagehand.Repository.PathPattern
import Stagehand.Repository.WrittenPath
import Stagehand.System.FileTree
/-!
# Loading a configuration

A configuration is a file together with the files it includes, in the order of its entries. A file
is included by its path, and under a condition by a section that names the place of the repository
or its branch. What is not there is passed over.
-/

namespace Stagehand.Repository.Config

/-- What loading depends on. -/
structure Scope where
  tree : FileTree
  current : Place
  /-- The directory of the repository. -/
  repository : String
  /-- The branch that the repository is on. -/
  branch : Option String

/-- The pattern that a condition on the place of the repository stands for. A pattern that starts
with a dot counts from the directory of the file, and one that does not start at the root may match
anywhere. -/
def placePattern (path condition : String) : String :=
  let pattern :=
    match condition.toList with
    | '.' :: '/' :: rest => joined (parent path) (String.ofList rest)
    | '/' :: _ => condition
    | _ => "**/" ++ condition
  if condition.endsWith "/" then pattern ++ "**" else pattern

/-- A condition of a section of the file at a path holds. -/
def Scope.holds (scope : Scope) (path condition : String) : Bool :=
  match condition.splitOn ":" with
  | "gitdir" :: rest => matchesPattern (placePattern path (":".intercalate rest)) scope.repository
  | "gitdir/i" :: rest =>
    matchesPattern (placePattern path (":".intercalate rest)).toLower scope.repository.toLower
  | "onbranch" :: rest =>
    let pattern := ":".intercalate rest
    scope.branch.any
      (matchesPattern (if pattern.endsWith "/" then pattern ++ "**" else pattern))
  | _ => false

/-- The path of the file that an entry of the file at a path includes. -/
def Scope.included? (scope : Scope) (path : String) (entry : Entry) : Option String :=
  let target := entry.value.map (joined (parent path))
  if entry.name = "include.path" then target
  else if entry.name.startsWith "includeif." ∧ entry.name.endsWith ".path" then
    let condition := ((entry.name.drop "includeif.".length).dropEnd ".path".length).toString
    if "includeif..path".length ≤ entry.name.length ∧ scope.holds path condition then target
    else none
  else none

/-- The file at a path, if there is one. -/
def Scope.text? (scope : Scope) (path : String) : Except ConfigError (Option String) :=
  match scope.tree.resolve scope.current path with
  | .ok place =>
    match scope.tree.entry? place with
    | some (.file text _) => .ok (some text)
    | _ => .ok none
  | .error cause =>
    if cause = .noSuchEntry ∨ cause = .notADirectory then .ok none
    else .error (.unusablePath path cause)

/-- The entries of the file at a path and of what it includes, down to a depth. -/
def Scope.load (scope : Scope) : Nat → String → Except ConfigError (List Entry)
  | 0, path =>
    match scope.text? path with
    | .ok none => .ok []
    | .ok (some _) => .error .tooDeep
    | .error e => .error e
  | depth + 1, path => do
    let some text ← scope.text? path | return []
    let parsed := parse text
    let entries ← parsed.entries.mapM fun entry => do
      match scope.included? path entry with
      | some target => return entry :: (← scope.load depth target)
      | none => return [entry]
    match parsed.fault with
    | none => return entries.flatten
    | some (.misuse what line column) => throw (.misuse what path line column)
    | some (.escape rest) => throw (.escape rest)

/-- How deep files may include each other. -/
def depthLimit : Nat := 10

end Stagehand.Repository.Config
