import Stagehand.Model.Error
import Stagehand.Model.Settings
import Stagehand.System.Host
import Stagehand.Text.Line
import Stagehand.Text.Quoted
/-!
# Running the model

A runner answers a prompt, and may echo on standard output what it reads from the model. The local
runner starts the program of its settings with the prompt as standard input, reads what it writes
line by line, and waits for it no longer than the limit.
-/

namespace Stagehand

/-- What came of a prompt, and what was echoed meanwhile. -/
structure ModelReply where
  result : Except ModelError String
  echoed : String := ""

/-- Someone who answers prompts. -/
structure Runner (σ : Type) where
  run : (prompt : String) → (echo : Bool) → σ → ModelReply × σ

namespace ModelSettings

/-- Whether the program can be found. -/
def checkInstalled (settings : ModelSettings) (installed : String → Bool) :
    Except ModelError Unit :=
  if installed settings.program then .ok () else .error (.notInstalled settings.program)

/-- The head of an echo: the command line, and a rule between blank lines. -/
def header (settings : ModelSettings) : String :=
  "Running LLM: " ++ Text.quotedList settings.commandLine ++ "\n\n---\n\n"

/-- The command that answers a prompt. -/
def command (settings : ModelSettings) (prompt : String) : Command where
  program := settings.program
  arguments := settings.arguments
  input := .piped (Text.Utf8.encode prompt)

/-- The pieces read, each decoded by itself. -/
def decodePieces (pieces : List Bytes) : String :=
  String.join (pieces.map Text.Utf8.decodeLossy)

/-- The process is still alive when the limit is over. -/
def outlives (settings : ModelSettings) (b : Behaviour) : Bool :=
  settings.limit.milliseconds ≤ b.linger

/-- What came of a process. -/
def outcome (settings : ModelSettings) (b : Behaviour) : Except ModelError String :=
  if settings.outlives b then .error (.timeout settings.limit.seconds)
  else if b.ending.succeeded then .ok (decodePieces (Text.pieces b.output))
  else .error (.nonZeroExit b.ending.code? (Text.trim (Text.Utf8.decodeLossy b.errors)))

/-- What is echoed of a process: every line it finished, and the last piece too if it ended. -/
def echoOf (settings : ModelSettings) (b : Behaviour) : String :=
  if settings.outlives b then decodePieces (Text.finishedPieces b.output)
  else decodePieces (Text.pieces b.output)

/-- The reply to a prompt, given what starting the program led to. -/
def reply (settings : ModelSettings) (echo : Bool) (launch : Launch) : ModelReply :=
  match launch with
  | .error cause =>
    { result := .error (.spawnFailed cause), echoed := if echo then settings.header else "" }
  | .ok b =>
    { result := settings.outcome b
      echoed := if echo then settings.header ++ settings.echoOf b else "" }

/-- The runner that starts the program of the settings. -/
def runner (settings : ModelSettings) : Runner Host where
  run prompt echo host :=
    let (launch, host) := host.start (settings.command prompt)
    (settings.reply echo launch, host)

end ModelSettings

end Stagehand
