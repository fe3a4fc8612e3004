/-!
# Path patterns

A pattern stands for paths: a question mark for a character other than a slash, an asterisk for any
number of those, and two asterisks that are a name of their own for any number of names. A backslash
takes the meaning from what follows it.
-/

namespace Stagehand.Repository

namespace PathPattern

/-- A part of a pattern. -/
inductive Piece
  | character (c : Char)
  /-- One character other than a slash. -/
  | any
  /-- Characters other than slashes. -/
  | within
  /-- Characters. -/
  | across
  deriving DecidableEq, Repr

/-- The pieces of the rest of a pattern; `opens` says that a name starts here. -/
def pieces (opens : Bool) : List Char → List Piece
  | [] => []
  | '\\' :: c :: rest => .character c :: pieces false rest
  | '?' :: rest => .any :: pieces false rest
  | '*' :: '*' :: rest =>
    if opens && (rest.isEmpty || rest.head? == some '/') then .across :: pieces false rest
    else .within :: pieces false rest
  | '*' :: rest => .within :: pieces false rest
  | c :: rest => .character c :: pieces (c == '/') rest

/-- The text is one that the pieces stand for. -/
def covers : List Piece → List Char → Bool
  | [], cs => cs.isEmpty
  | .character c :: rest, d :: ds => c == d && covers rest ds
  | .any :: rest, d :: ds => d != '/' && covers rest ds
  | .character _ :: _, [] | .any :: _, [] => false
  | .within :: rest, [] => covers rest []
  | .within :: rest, d :: ds => covers rest (d :: ds) || (d != '/' && covers (.within :: rest) ds)
  | .across :: rest, [] =>
    covers rest [] || (rest.head? == some (.character '/') && covers rest.tail [])
  | .across :: rest, d :: ds =>
    covers rest (d :: ds) || (rest.head? == some (.character '/') && covers rest.tail (d :: ds)) ||
      covers (.across :: rest) ds
termination_by pieces cs => (pieces.length, cs.length)
decreasing_by all_goals simp_all; try omega

end PathPattern

/-- The path is one that the pattern stands for. -/
def matchesPattern (pattern path : String) : Bool :=
  PathPattern.covers (PathPattern.pieces true pattern.toList) path.toList

end Stagehand.Repository
