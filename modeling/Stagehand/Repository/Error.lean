import Stagehand.System.Process
/-!
# Failures of the repository

What can go wrong when the repository is looked for, or when the version control program is run in
it, with the wording of each failure and of the causes below it.
-/

namespace Stagehand

/-- Why a request to the repository failed. -/
inductive VcsError
  /-- There is no repository; the text says how the search ended. -/
  | notARepository (text : String)
  /-- The repository has no work tree. -/
  | bareRepository
  /-- The program could not be started. -/
  | spawnFailed (operation : String) (cause : SystemError)
  /-- The program failed. -/
  | nonZeroExit (operation : String) (code : Option Int) (errors : String)
  deriving DecidableEq, Repr

namespace VcsError

/-- The failure in words. -/
def message : VcsError → String
  | .notARepository text => s!"Not a git repository: {text}"
  | .bareRepository => "Bare repository not supported"
  | .spawnFailed operation cause => s!"Failed to run git {operation}: {cause.message}"
  | .nonZeroExit operation code errors =>
    s!"git {operation} exited with {exitWording code}: {errors}"

/-- The causes below the failure, in words. -/
def causes : VcsError → List String
  | .notARepository text => [text]
  | .bareRepository => []
  | .spawnFailed _ cause => [cause.message]
  | .nonZeroExit .. => []

end VcsError

end Stagehand
