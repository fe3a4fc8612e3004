import Stagehand.Text.Blank
/-!
# The mark of a breaking change

A message is marked as a breaking change when it begins, after blank characters, with the word
`breaking` in parentheses. The case of the word does not matter, and there may be white space on
either side of it; both go by ASCII alone.
-/

namespace Stagehand.Message

/-- The white space of ASCII. -/
def isAsciiSpace (c : Char) : Bool :=
  c == ' ' || c == '\t' || c == '\n' || c == '\x0b' || c == '\x0c' || c == '\r'

/-- The two characters are one up to the case of ASCII letters. -/
def sameLetter (a b : Char) : Bool :=
  a.toLower == b.toLower

/-- The rest after a word, read without regard to case. -/
def dropWord? : List Char → List Char → Option (List Char)
  | [], cs => some cs
  | _ :: _, [] => none
  | w :: word, c :: cs => if sameLetter w c then dropWord? word cs else none

/-- The rest after the mark at the beginning of the text. -/
def dropMark? : List Char → Option (List Char)
  | '(' :: cs =>
    match dropWord? "breaking".toList (cs.dropWhile isAsciiSpace) with
    | some cs =>
      match cs.dropWhile isAsciiSpace with
      | ')' :: rest => some rest
      | _ => none
    | none => none
  | _ => none

/-- The message announces a breaking change. -/
def isBreaking (message : String) : Bool :=
  (dropMark? (message.toList.dropWhile Text.isBlank)).isSome

end Stagehand.Message
