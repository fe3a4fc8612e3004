import Stagehand.System.FileTree
import Stagehand.System.Host
/-!
# A machine

A machine is a file tree with a current directory, a search path, and for some programs the list of
what they do each time they are started. It answers two questions: whether a program is installed,
and what starting a command leads to. `Machine.host` is the machine as a host.
-/

namespace Stagehand

/-- A computer as far as programs are looked up and started on it. -/
structure Machine where
  tree : FileTree
  current : Place
  /-- The directories to look for programs in, if they are set. -/
  searchPath : Option (List String)
  /-- What the program at a place does at its first, second, … start; past the end of the list it
  writes nothing and ends well. -/
  scripts : List (Place × List Behaviour)

namespace Machine

/-- The names in a path that lead on: all but empty names and dots. -/
def pathNames (path : String) : List String :=
  (path.splitOn "/").filter fun name => name ≠ "" ∧ name ≠ "."

/-- The program is given by its place and not by a bare name: it has at least two parts, of which
the root counts as one, and so does a dot at the front. -/
def namesPlace (program : String) : Bool :=
  let front := program.startsWith "/" || (program.splitOn "/").head? == some "."
  1 < (pathNames program).length + front.toNat

/-- The path of a name in a directory of the search path; an empty directory is the current one. -/
def pathIn (directory name : String) : String :=
  if directory = "" then name else directory ++ "/" ++ name

/-- The program can be found: at its place, or under its name in a directory of the search path. Of
a place given from the current directory only the names count, so it may end in a slash. -/
def installed (m : Machine) (program : String) : Bool :=
  if namesPlace program then
    m.tree.isProgram m.current
      (if program.startsWith "/" then program else "/".intercalate (pathNames program))
  else (m.searchPath.getD []).any fun directory =>
    m.tree.isProgram m.current (pathIn directory program)

/-- The longest argument of a command, in bytes. -/
def longestArgument : Nat := 131071

/-- Where programs are looked for when no search path is set. -/
def standardSearchPath : List String := ["/bin", "/usr/bin"]

/-- The place of the file that a path has run, which must be a program. -/
def locateFile (m : Machine) (current : Place) (path : String) : Except SystemError Place := do
  let place ← m.tree.resolve current path
  match m.tree.entry? place with
  | some (.file _ true) => .ok place
  | _ => .error .permissionDenied

/-- The program of a bare name in the directories of the search path. A file that may not be run is
passed over, and is the reason given if no other is found; else the last failure is. -/
def search (m : Machine) (current : Place) (name : String) (refusal : SystemError) :
    List String → Except SystemError Place
  | [] => .error refusal
  | directory :: rest =>
    match m.locateFile current (pathIn directory name) with
    | .ok place => .ok place
    | .error e =>
      if e = .noSuchEntry ∨ e = .notADirectory ∨ e = .permissionDenied then
        m.search current name (if refusal = .permissionDenied then refusal else e) rest
      else .error e

/-- The place of the program of a command. -/
def locate (m : Machine) (c : Command) : Except SystemError Place := do
  let current ←
    match c.workdir with
    | none => .ok m.current
    | some path =>
      let place ← m.tree.resolve m.current path
      if m.tree.entry? place = some .directory then .ok place else .error .notADirectory
  if c.program.toList.contains '/' then
    m.locateFile current c.program
  else if c.program = "" then .error .noSuchEntry
  else if FileTree.longestName < c.program.utf8ByteSize then .error .nameTooLong
  else
    m.search current c.program .noSuchEntry (m.searchPath.getD standardSearchPath)

/-- The attempt started the program at the place. -/
def startedAt (m : Machine) (place : Place) (a : Attempt) : Bool :=
  a.started &&
    match m.locate a.command with
    | .ok other => other == place
    | .error _ => false

/-- What starting a command leads to after earlier attempts. -/
def respond (m : Machine) (earlier : List Attempt) (c : Command) : Launch := do
  let place ← m.locate c
  if c.arguments.any fun argument => longestArgument < argument.utf8ByteSize then
    .error .argumentsTooLong
  else
    let script := (m.scripts.find? (·.1 == place)).elim [] (·.2)
    .ok (script.getD (earlier.countP (m.startedAt place)) {})

/-- The machine as the host of a run. -/
def host (m : Machine) : Host where
  respond := m.respond

end Machine

end Stagehand
