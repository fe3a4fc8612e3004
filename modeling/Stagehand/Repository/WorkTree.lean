import Stagehand.Repository.Config.Load
import Stagehand.Repository.Config.Value
import Stagehand.Repository.Discovery
import Stagehand.Repository.Error
/-!
# The work tree

A repository that was found is opened again by the path of its directory. Its configuration decides
whether its format is known, whether it is bare, and where its work tree is: where the configuration
says, else over the repository. The repository of a linked work tree links to it instead.
-/

namespace Stagehand.Repository

namespace Ground

/-- The branch that the file `HEAD` of a directory names. -/
def branch? (ground : Ground) (directory : Place) : Option String :=
  match ground.tree.entry? (directory ++ ["HEAD"]) with
  | some (.file content _) =>
    let text := String.ofList (linkText content)
    let marker := "ref: refs/heads/"
    if text.startsWith marker then some (text.drop marker.length).toString else none
  | _ => none

/-- The configuration of a repository: that of the common directory and that of its own. -/
def configuration (ground : Ground) (l : Location) :
    Except OpenError (List Config.Entry) := do
  let scope : Config.Scope :=
    { tree := ground.tree, current := ground.current
      repository := FileTree.written l.directory
      branch := ground.branch? l.directory }
  let load (path : Place) : Except OpenError (List Config.Entry) :=
    (scope.load Config.depthLimit (FileTree.written path)).mapError .config
  return (← load (l.common ++ ["config"])) ++ (← load (l.directory ++ ["config.worktree"]))

/-- The repository belongs to a linked work tree. -/
def isLinked (ground : Ground) (l : Location) : Bool :=
  l.common != l.directory && (ground.tree.entry? (l.directory ++ ["gitdir"])).isSome

/-- The work tree of a repository that is not bare. -/
def workTreeOf (ground : Ground) (config : List Config.Entry) (l : Location) :
    Except OpenError String := do
  if ground.isLinked l then
    let link ← ground.readLink l.directory "gitdir"
    return asDirectory (parent link)
  else
    match (Config.find? config "core.worktree").bind (·.value) with
    | some "" => throw .emptyWorkTree
    | some path =>
      return writtenDirectory (← ground.follow (joined (writtenDirectory l.directory) path))
    | none => return writtenDirectory l.above

/-- Looks at what stands at a path; nothing need stand there. -/
def examine (ground : Ground) (path : String) : Except OpenError Unit :=
  match ground.tree.resolve ground.current path with
  | .ok _ => .ok ()
  | .error cause => if cause = .noSuchEntry then .ok () else .error (.unexamined path cause)

end Ground

/-- The extensions that are known. -/
def knownExtensions : List String :=
  ["extensions.noop", "extensions.objectformat", "extensions.worktreeconfig"]

/-- The format of the repository is known. -/
def checkFormat (config : List Config.Entry) : Except OpenError Unit := do
  let some entry := Config.find? config "core.repositoryformatversion" | return
  let some version := entry.value.bind Config.number? | throw (.config (.notNumber entry.value))
  if 1 < version then throw (.laterFormat version)
  if version < 1 then return
  let names := (config.map Config.Entry.name).filter (·.startsWith "extensions.")
  match names.find? (!knownExtensions.contains ·) with
  | some name => throw (.unknownExtension name)
  | none =>
    match (Config.find? config "extensions.objectformat").bind (·.value) with
    | none | some "sha1" => return
    | some format => throw (.unknownObjectFormat format)

/-- The configuration says that the repository is bare. -/
def isBare (config : List Config.Entry) : Except OpenError Bool :=
  match Config.find? config "core.bare" with
  | none => .ok false
  | some entry =>
    match Config.truth? entry.value with
    | some bare => .ok bare
    | none => .error (.config (.notBoolean (entry.value.getD "")))

/-- The work tree of the repository at a path, if it is not bare. -/
def Ground.open (ground : Ground) (path : String) : Except OpenError (Option String) := do
  let l ← ground.locate false path
  let config ← ground.configuration l
  checkFormat config
  let bare ← isBare config
  let workTree? ←
    if bare && !ground.isLinked l then pure none
    else some <$> ground.workTreeOf config l
  workTree?.toList.forM ground.examine
  l.link.toList.forM ground.examine
  return workTree?

/-- The root of the work tree that a path lies in, written with a slash at its end. -/
def workTree (tree : FileTree) (current : Place) (path : String) : Except VcsError String :=
  let ground : Ground := { tree, current }
  let opened : Except OpenError (Option String) := do
    let l ← ground.search path
    ground.open (writtenDirectory l.directory)
  match opened with
  | .error e => .error (.notARepository e.message)
  | .ok none => .error .bareRepository
  | .ok (some workTree) => .ok workTree

end Stagehand.Repository
