import Stagehand.System.Process
/-!
# Failures of the build

What can go wrong around the stages of a build, with the wording of each failure. A stage that ends
with an exit code other than zero is no failure of this kind: its code is the result of the build.
-/

namespace Stagehand

/-- Why a build could not be run. -/
inductive BuildError
  /-- The container engine was not found. -/
  | engineNotInstalled (program : String)
  /-- The container engine could not be started. -/
  | spawnFailed (operation : String) (cause : SystemError)
  /-- No container came up. -/
  | provisionFailed (image errors : String)
  /-- The sources could not be copied into the container. -/
  | copyFailed (errors : String)
  /-- The sources are no directory. -/
  | missingSource (path : String)
  deriving DecidableEq, Repr

namespace BuildError

/-- The failure in words. -/
def message : BuildError → String
  | .engineNotInstalled program => s!"Container engine '{program}' not found on PATH"
  | .spawnFailed operation cause =>
    s!"Failed to run container engine for {operation}: {cause.message}"
  | .provisionFailed image errors => s!"Failed to provision container from {image}: {errors}"
  | .copyFailed errors => s!"Failed to copy sources into container: {errors}"
  | .missingSource path => s!"Source directory does not exist: {path}"

/-- The causes below the failure, in words. -/
def causes : BuildError → List String
  | .spawnFailed _ cause => [cause.message]
  | .engineNotInstalled _ | .provisionFailed .. | .copyFailed _ | .missingSource _ => []

end BuildError

end Stagehand
