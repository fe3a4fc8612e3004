import Stagehand.Text.Utf8
/-!
# Environment variables

A variable is unset or holds bytes, which need not be text.
-/

namespace Stagehand

/-- The value of every variable that is set. -/
abbrev Variables := String → Option Bytes

/-- The text that a variable holds, if it is set and holds text. -/
def Variables.text? (environment : Variables) (name : String) : Option String :=
  (environment name).bind Text.Utf8.decode?

end Stagehand
