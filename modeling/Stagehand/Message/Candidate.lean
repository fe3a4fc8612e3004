import Stagehand.Text.Strip
/-!
# The candidate message

Models like to wrap a message in quotes. Cleaning takes accents, quotes and line feeds off both ends
and leaves the inside alone.
-/

namespace Stagehand.Message

/-- The characters that models wrap a message in. -/
def isWrapping (c : Char) : Bool :=
  c == '´' || c == '\x60' || c == '\'' || c == '"' || c == '\n'

/-- The message without its wrapping. -/
def clean (s : String) : String :=
  String.ofList (Text.strip isWrapping s.toList)

@[simp] theorem toList_clean (s : String) : (clean s).toList = Text.strip isWrapping s.toList := by
  simp [clean]

end Stagehand.Message
