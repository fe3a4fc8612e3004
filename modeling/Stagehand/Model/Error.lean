import Stagehand.System.Process
/-!
# Failures of the model

What can go wrong when the model is consulted, with the wording of each failure.
-/

namespace Stagehand

/-- Why the model gave no answer. -/
inductive ModelError
  /-- The program was not found. -/
  | notInstalled (program : String)
  /-- The program could not be started. -/
  | spawnFailed (cause : SystemError)
  /-- Talking to the program failed. -/
  | io (cause : SystemError)
  /-- The program did not end within the limit, given in whole seconds. -/
  | timeout (seconds : Nat)
  /-- The program failed. -/
  | nonZeroExit (code : Option Int) (errors : String)
  deriving DecidableEq, Repr

namespace ModelError

/-- The failure in words. -/
def message : ModelError → String
  | .notInstalled program => s!"Model runner '{program}' not found on PATH"
  | .spawnFailed cause => s!"Failed to spawn model runner: {cause.message}"
  | .io cause => s!"I/O error talking to model runner: {cause.message}"
  | .timeout seconds => s!"Model runner timed out after {seconds} seconds"
  | .nonZeroExit code errors => s!"Model runner exited with {exitWording code}: {errors}"

/-- The causes below the failure, in words. -/
def causes : ModelError → List String
  | .spawnFailed cause | .io cause => [cause.message]
  | .notInstalled _ | .timeout _ | .nonZeroExit .. => []

end ModelError

end Stagehand
