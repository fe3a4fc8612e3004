import Stagehand.Program.Options
import Stagehand.Repository.Error
import Stagehand.System.Host
import Stagehand.System.Variables
/-!
# Surroundings and reports

A command is a function from its surroundings to a report. The surroundings are all that it can ask
about and all that it is given; the report is how it exits, what it writes, and the host with the
attempts it made.
-/

namespace Stagehand.Program

/-- Where a command runs. -/
structure Surroundings where
  /-- The arguments as they are displayed: what of one is not text is replaced. -/
  arguments : List String
  environment : Variables
  /-- Standard input. -/
  input : Bytes
  /-- The root of the work tree around the current directory. -/
  workTree : Except VcsError String
  /-- The program can be found. -/
  installed : String → Bool
  /-- The path that is displayed so leads to a directory; the answer is about the path itself. -/
  isDirectory : String → Bool
  host : Host

/-- What a command leads to. -/
structure Report where
  exit : UInt8
  output : Bytes
  /-- What is written to standard error for the user. The lines of the log, which go there as well,
  are left out. -/
  errors : Bytes
  host : Host

namespace Report

/-- The exit code of a run that failed. -/
def failure : UInt8 := 1

/-- The exit code of a command line that was refused. -/
def misuse : UInt8 := 2

/-- The line about a failure: what failed, and why, down to the last cause. -/
def failureLine (context message : String) (causes : List String) : String :=
  "Error: " ++ ": ".intercalate (context :: message :: causes) ++ "\n"

/-- The report of a run that ended before it did anything. -/
def failed (host : Host) (context message : String) (causes : List String) : Report where
  exit := failure
  output := []
  errors := Text.Utf8.encode (failureLine context message causes)
  host

/-- The bytes of a text as it is shown without a terminal. -/
def plain (s : String) : Bytes :=
  Text.Utf8.encode (Text.withoutControls s)

/-- The report of a command line that asks for no ordinary run. -/
def stopped (host : Host) (help version : String) : Stop → Report
  | .help => ⟨0, plain help, [], host⟩
  | .version => ⟨0, plain version, [], host⟩
  | .refused e => ⟨misuse, [], plain ("error: " ++ e.message ++ "\n"), host⟩

end Report

end Stagehand.Program
