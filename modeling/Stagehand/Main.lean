import Stagehand.Program.BuildCommand
import Stagehand.Program.CommitCommand
import Stagehand.Repository.WorkTree
import Stagehand.System.Machine
/-!
# The command line

The first argument names the command. This executable starts no other program: the commands run on a
machine with no programs and no repository, so beyond help, version and usage they say what is
missing.
-/

namespace Stagehand

/-- The machine with nothing on it. -/
def bareMachine : Machine where
  tree := {}
  current := []
  searchPath := none
  scripts := []

/-- The surroundings of a command on the bare machine. -/
def bareSurroundings (arguments : List String) (environment : Variables) (input : Bytes) :
    Program.Surroundings where
  arguments
  environment
  input
  workTree := Repository.workTree bareMachine.tree bareMachine.current "."
  installed := bareMachine.installed
  isDirectory := bareMachine.tree.isDirectory bareMachine.current
  host := bareMachine.host

/-- The command that the first argument names, and the arguments for it. -/
def command? : List String → Option ((Program.Surroundings → Program.Report) × List String)
  | "gcm" :: rest => some (Program.CommitCommand.run, rest)
  | "build-driver" :: rest => some (Program.BuildCommand.run, rest)
  | _ => none

end Stagehand

open Stagehand in
/-- Runs the command that the first argument names. -/
def main (arguments : List String) : IO UInt32 := do
  match command? arguments with
  | none =>
    IO.eprintln "usage: stagehand gcm|build-driver [OPTIONS]"
    return 2
  | some (run, rest) =>
    let set := (← IO.getEnv Program.BuildCommand.versionVariable).map Text.Utf8.encode
    let environment : Variables := fun asked =>
      if asked = Program.BuildCommand.versionVariable then set else none
    let report := run (bareSurroundings rest environment [])
    (← IO.getStdout).write ⟨report.output.toArray⟩
    (← IO.getStderr).write ⟨report.errors.toArray⟩
    return report.exit.toUInt32
