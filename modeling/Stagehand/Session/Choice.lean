import Stagehand.Text.Blank
import Stagehand.Text.LowerCase
/-!
# Menu answers

The four choices at the menu. An answer is trimmed and put into lower case, and is then one of four
letters or no choice at all.
-/

namespace Stagehand

/-- What to do with a proposed message. -/
inductive Choice
  | accept
  | edit
  | regenerate
  | cancel
  deriving DecidableEq, Repr

/-- An answer that is no choice, trimmed and in lower case. -/
structure InvalidChoice where
  answer : String
  deriving DecidableEq, Repr

/-- The fault in words. -/
def InvalidChoice.message (e : InvalidChoice) : String :=
  s!"Invalid choice '{e.answer}'"

/-- The choice that an answer names. -/
def Choice.ofAnswer (answer : String) : Except InvalidChoice Choice :=
  match Text.lowerCase (Text.trim answer) with
  | "a" => .ok .accept
  | "e" => .ok .edit
  | "r" => .ok .regenerate
  | "c" => .ok .cancel
  | other => .error ⟨other⟩

end Stagehand
