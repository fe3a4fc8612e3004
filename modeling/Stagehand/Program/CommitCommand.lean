import Stagehand.Program.Surroundings
import Stagehand.Repository.Git
import Stagehand.Session.Piped
/-!
# The command `gcm`

It proposes a message for the staged changes and commits them with it. Before it starts anything it
checks that it runs in a work tree and, after that, that the program of the model is installed.
-/

namespace Stagehand.Program.CommitCommand

/-- The options. -/
def grammar : Grammar where
  settings := [⟨"model", "MODEL", .any⟩, ⟨"timeout", "SECS", .positive⟩]
  switches := commonSwitches

/-- The help text. -/
def help : String :=
  "Generate a commit message for the staged changes with a local LLM\n\n" ++
  "Usage: gcm [OPTIONS]\n\n" ++
  "Options:\n" ++
  "      --model <MODEL>   Model to run (overrides GCM_MODEL)\n" ++
  "      --timeout <SECS>  Give up on the model after this many seconds " ++
  "(overrides GCM_TIMEOUT)\n" ++
  "  -v, --verbose         Enable debug logging\n" ++
  "  -h, --help            Print help\n" ++
  "  -V, --version         Print version\n"

/-- The version line. -/
def version : String := "gcm 0.1.0\n"

/-- The settings of the model: what the command line gives, and else what the environment does. -/
def settings (given : Given) (environment : Variables) : ModelSettings :=
  let base := ModelSettings.ofVariables environment
  let base := (given.value? "model").elim base base.withModel
  ((given.value? "timeout").bind ModelSettings.seconds?).elim base
    fun n => base.withLimit (.ofSeconds n)

/-- The repository and the model of an ordinary run. -/
def collaborators (settings : ModelSettings) : Session.Collaborators Host where
  diff := Git.stagedDiff {}
  model := settings.runner
  commit := Git.commit {}

/-- The report of a session. -/
def ofRun (run : Session.Run Bytes Host) : Report :=
  let output := Text.Utf8.encode run.trace.output
  let errors := run.trace.errors
  match run.result with
  | .ok outcome => ⟨outcome.exitCode, output, Text.Utf8.encode errors, run.world⟩
  | .error e =>
    let line := Report.failureLine "Failed to read staged changes" e.message e.causes
    ⟨Report.failure, output, Text.Utf8.encode (errors ++ line), run.world⟩

/-- An ordinary run. -/
def runWith (given : Given) (s : Surroundings) : Report :=
  match s.workTree with
  | .error e =>
    .failed s.host "gcm must be run from within a git work tree" e.message e.causes
  | .ok _ =>
    let settings := settings given s.environment
    match settings.checkInstalled s.installed with
    | .error e => .failed s.host "A local model runner is required" e.message e.causes
    | .ok () => ofRun (Session.runBytes (collaborators settings) s.input s.host)

/-- The command. -/
def run (s : Surroundings) : Report :=
  match grammar.read s.arguments with
  | .error stop => .stopped s.host help version stop
  | .ok given => runWith given s

end Stagehand.Program.CommitCommand
