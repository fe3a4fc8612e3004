import Stagehand.Text.Strip
/-!
# Blank characters

The blank characters are those with the property White_Space of Unicode. A text is trimmed by taking
them off its ends, and is blank when nothing remains.
-/

namespace Stagehand.Text

/-- The character has the property White_Space. -/
def isBlank (c : Char) : Bool :=
  let n := c.toNat
  (0x9 ≤ n && n ≤ 0xD) || n == 0x20 || n == 0x85 || n == 0xA0 || n == 0x1680 ||
    (0x2000 ≤ n && n ≤ 0x200A) || n == 0x2028 || n == 0x2029 || n == 0x202F || n == 0x205F ||
    n == 0x3000

/-- The text without blank characters at its ends. -/
def trim (s : String) : String :=
  String.ofList (strip isBlank s.toList)

/-- The text has no character that is not blank. -/
def isBlankText (s : String) : Bool :=
  s.toList.all isBlank

@[simp] theorem toList_trim (s : String) : (trim s).toList = strip isBlank s.toList := by
  simp [trim]

theorem isBlank_newline : isBlank '\n' = true := by decide

end Stagehand.Text
