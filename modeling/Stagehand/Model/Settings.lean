import Stagehand.System.Variables
import Stagehand.Text.Blank
import Stagehand.Text.Decimal
/-!
# Settings of the model

Which program runs the model, which model it runs, and how long it may take. The settings come from
three environment variables, each with a default for a value that is missing or unfit; what is given
on the command line replaces them.
-/

namespace Stagehand

/-- A span of time. -/
structure Duration where
  milliseconds : Nat
  deriving DecidableEq, Repr

/-- A span of whole seconds. -/
def Duration.ofSeconds (n : Nat) : Duration := ⟨n * 1000⟩

/-- The whole seconds in a span. -/
def Duration.seconds (d : Duration) : Nat := d.milliseconds / 1000

@[simp] theorem Duration.seconds_ofSeconds (n : Nat) : (Duration.ofSeconds n).seconds = n := by
  simp [seconds, ofSeconds]

/-- How to run the model. -/
structure ModelSettings where
  program : String := "ollama"
  model : String := "llama3.1:8b"
  limit : Duration := .ofSeconds 86400
  deriving DecidableEq, Repr

namespace ModelSettings

/-- A text without blank ends, or a default for a blank one. -/
def orDefault (value : Option String) (default : String) : String :=
  match value.map Text.trim with
  | some "" | none => default
  | some text => text

/-- The seconds that a text names, if it names a number of 64 bits other than zero. -/
def seconds? (s : String) : Option Nat :=
  match Text.Decimal.read Text.Decimal.max64 s with
  | .ok 0 | .error _ => none
  | .ok n => some n

/-- The settings that the environment asks for. -/
def ofVariables (environment : Variables) : ModelSettings where
  program := orDefault (environment.text? "GCM_RUNNER") "ollama"
  model := orDefault (environment.text? "GCM_MODEL") "llama3.1:8b"
  limit := .ofSeconds (((environment.text? "GCM_TIMEOUT").bind seconds?).getD 86400)

/-- The settings with another model. -/
def withModel (settings : ModelSettings) (model : String) : ModelSettings :=
  { settings with model }

/-- The settings with another limit. -/
def withLimit (settings : ModelSettings) (limit : Duration) : ModelSettings :=
  { settings with limit }

/-- The arguments of the program. -/
def arguments (settings : ModelSettings) : List String :=
  ["run", settings.model]

/-- The program and its arguments. -/
def commandLine (settings : ModelSettings) : List String :=
  settings.program :: settings.arguments

end ModelSettings

end Stagehand
