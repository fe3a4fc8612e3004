import Stagehand.Text.Utf8
/-!
# Lines

Cutting data after each newline byte, and the last line of a text. `takeLine` splits off one piece
with its newline; `pieces` cuts all of it, and nothing is lost: the pieces join to the whole.
-/

namespace Stagehand.Text

/-- The newline byte. -/
def newline : UInt8 := 0x0A

/-- The bytes up to and with the first newline, and the rest. -/
def takeLine : Bytes → Bytes × Bytes
  | [] => ([], [])
  | b :: rest =>
    if b = newline then ([b], rest)
    else
      let (line, rest) := takeLine rest
      (b :: line, rest)

theorem takeLine_append (bytes : Bytes) : (takeLine bytes).1 ++ (takeLine bytes).2 = bytes := by
  induction bytes with
  | nil => rfl
  | cons b rest ih =>
    rw [takeLine]
    split
    · rfl
    · simpa using ih

theorem length_takeLine (b : UInt8) (rest : Bytes) :
    (takeLine (b :: rest)).2.length < (b :: rest).length := by
  have hlen := congrArg List.length (takeLine_append rest)
  rw [List.length_append] at hlen
  rw [takeLine]
  split
  · simp
  · simp only [List.length_cons]; omega

/-- The bytes cut after each newline; the last piece may have none. -/
def pieces : Bytes → List Bytes
  | [] => []
  | b :: rest => (takeLine (b :: rest)).1 :: pieces (takeLine (b :: rest)).2
termination_by bytes => bytes.length
decreasing_by exact length_takeLine b rest

/-- The pieces that end in a newline: all but an unfinished last one. -/
def finishedPieces (bytes : Bytes) : List Bytes :=
  (pieces bytes).filter (·.getLast? == some newline)

/-- The text after the last newline. -/
def lastLine (cs : List Char) : List Char :=
  (cs.reverse.takeWhile (· != '\n')).reverse

end Stagehand.Text
