import Stagehand.Text.CodeRange
import Stagehand.Text.LowerCase.Table
/-!
# Lower case

The full lower-casing of Unicode: every character goes to its lower-case letter, the capital I with
a dot to an i and a combining dot, and the capital sigma to the final sigma where it ends a word and
to the plain sigma elsewhere.
-/

namespace Stagehand.Text.LowerCase

/-- The lower-case form of a character that stands alone. -/
def ofChar (c : Char) : List Char :=
  if c = 'İ' then ['i', '\u0307']
  else
    match shifts.find? (·.covers c.toNat) with
    | some shift => [Char.ofNat (shift.apply c.toNat)]
    | none => [c]

/-- The first character that case detection does not skip is cased. -/
def startsCased (cs : List Char) : Bool :=
  match cs.dropWhile (inRanges ignorableRanges) with
  | c :: _ => inRanges casedRanges c
  | [] => false

/-- A capital sigma ends a word: a cased character stands before it and none after it. -/
def endsWord (before after : List Char) : Bool :=
  startsCased before && !startsCased after

/-- Lower case of the rest of a text; `before` is what precedes it, nearest first. -/
def ofCharsAfter (before : List Char) : List Char → List Char
  | [] => []
  | c :: rest =>
    (if c = 'Σ' then [if endsWord before rest then 'ς' else 'σ'] else ofChar c) ++
      ofCharsAfter (c :: before) rest

end LowerCase

/-- The text in lower case. -/
def lowerCase (s : String) : String :=
  String.ofList (LowerCase.ofCharsAfter [] s.toList)

end Stagehand.Text
