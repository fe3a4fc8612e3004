import Stagehand.Repository.Error
import Stagehand.System.Host
import Stagehand.Text.Blank
/-!
# The version control program

The two requests to the program `git`: the difference between the index and the last commit, and a
commit of the index. Both run without input; the first gives what the program wrote, unchanged.
-/

namespace Stagehand

/-- The program `git`, run in a directory. -/
structure Git where
  /-- Where to run it, if not in the current directory. -/
  workdir : Option String := none

namespace Git

/-- The command with these arguments. -/
def command (git : Git) (arguments : List String) : Command where
  program := "git"
  arguments
  workdir := git.workdir

/-- What the program wrote, or why there is nothing. -/
def outcome (operation : String) : Launch → Except VcsError String
  | .error cause => .error (.spawnFailed operation cause)
  | .ok b =>
    if b.ending.succeeded then .ok (Text.Utf8.decodeLossy b.output)
    else
      .error (.nonZeroExit operation b.ending.code? (Text.trim (Text.Utf8.decodeLossy b.errors)))

/-- There is a result when the program started and exited with zero, and it is what was written. -/
theorem outcome_eq_ok_iff (operation : String) (launch : Launch) (text : String) :
    outcome operation launch = .ok text ↔
      ∃ b, launch = .ok b ∧ b.ending = .exited 0 ∧ Text.Utf8.decodeLossy b.output = text := by
  cases launch with
  | error cause => simp [outcome]
  | ok b =>
    by_cases hended : b.ending = .exited 0
    · simp [outcome, hended]
    · simp [outcome, hended]

/-- Runs the program for an operation. -/
def run (git : Git) (arguments : List String) (operation : String) (host : Host) :
    Except VcsError String × Host :=
  let (launch, host) := host.start (git.command arguments)
  (outcome operation launch, host)

/-- The staged changes. -/
def stagedDiff (git : Git) (host : Host) : Except VcsError String × Host :=
  git.run ["diff", "--cached"] "diff" host

/-- Commits the staged changes with a message. -/
def commit (git : Git) (message : String) (host : Host) : Except VcsError Unit × Host :=
  let (reply, host) := git.run ["commit", "-m", message] "commit" host
  (reply.map fun _ => (), host)

end Git

end Stagehand
