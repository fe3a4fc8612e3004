/-!
# The prompt

What the model is asked: the staged changes between a fixed opening and a fixed closing, and nothing
of the changes is altered.
-/

namespace Stagehand.Message

/-- What stands before the changes. -/
def promptOpening : String :=
  "Below is a diff of all staged changes, coming from the command:\n\n\x60\x60\x60\n"

/-- What stands after the changes. -/
def promptClosing : String :=
  "\n\x60\x60\x60\n\nPlease generate a concise, one-line commit message for these changes.\n\n" ++
  "Your only output should be a single line containing the commit message.\n" ++
  "Do not include any other information.\n" ++
  "Do not format the line in any way other than plain text.\n\n" ++
  "If the changes contain breaking changes, please start the commit message with " ++
  "\"(Breaking)\".\n\n" ++
  "Examples:\n" ++
  "- User display name now defaults to \"Anonymous\" if not provided\n" ++
  "- Fixed bug where user could not log in with email address\n" ++
  "- (Breaking) Removed support for Python 2.7\n"

/-- The prompt for a message about the changes. -/
def prompt (diff : String) : String :=
  promptOpening ++ diff ++ promptClosing

end Stagehand.Message
