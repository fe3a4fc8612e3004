import Stagehand.Text.Strip
/-!
# The syntax of a configuration

A configuration is read line by line. A line may open with section headers; after them it holds a
comment, or a name that may be given a value. A value goes on in the next line where its line ends
in a backslash. Reading stops at the first fault and keeps the entries before it. A line ends for
all purposes at a NUL.
-/

namespace Stagehand.Repository.Config

/-- A name that is set, with its value if it was given one. -/
structure Entry where
  name : String
  value : Option String
  deriving DecidableEq, Repr

/-- What is wrong with a line. -/
inductive Misuse
  | missingBracket
  | missingQuotes
  | missingClosingQuote
  | textAfterQuotes
  | headerCharacter
  | key
  deriving DecidableEq, Repr

/-- The misuse in words. -/
def Misuse.message : Misuse → String
  | .missingBracket => "missing ']' in section header"
  | .missingQuotes => "missing quotation marks in section header"
  | .missingClosingQuote => "missing closing quotation mark in section header"
  | .textAfterQuotes => "unexpected text after closing quotes"
  | .headerCharacter => "unexpected character in header"
  | .key => "invalid configuration key"

/-- Why reading stopped. -/
inductive Fault
  /-- A line is misused, at a column in bytes where that is known. -/
  | misuse (what : Misuse) (line : Nat) (column : Option Nat)
  /-- A backslash stands before something that has no escaped form. -/
  | escape (rest : String)
  deriving DecidableEq, Repr

/-- The white space of a configuration. -/
def isSpace (c : Char) : Bool :=
  c == ' ' || ('\t' ≤ c && c ≤ '\r')

/-- A character of a name. -/
def isKeyChar (c : Char) : Bool :=
  c.isAlphanum || c == '-'

/-- The characters before the first NUL. -/
def untilNul (cs : List Char) : List Char :=
  cs.takeWhile (· != '\x00')

/-! ## Headers -/

/-- A place in a header where it is misused. -/
abbrev HeaderFault := Misuse × Option Nat

/-- Reads between quotes, from the byte with the given number, and gives what was read, the rest,
and where that starts. A quote ends it, and so does the last quote of the line. -/
def readQuoted (column : Nat) (read : List Char) : List Char → List Char × List Char × Nat
  | [] => (read, [], column)
  | '"' :: rest => (read, '"' :: rest, column)
  | '\\' :: c :: rest =>
    let column := column + 1 + c.utf8Size
    if rest.tail.contains '"' then readQuoted column (read ++ [c]) rest
    else (read ++ [c], rest, column)
  | c :: rest =>
    let column := column + c.utf8Size
    if rest.tail.contains '"' then readQuoted column (read ++ [c]) rest
    else (read ++ [c], rest, column)

/-- Reads the quoted part of a header, after the name, up to the closing bracket. -/
def readSubsection (name : List Char) (cs : List Char) :
    Except HeaderFault (List Char × List Char) :=
  match cs.dropWhile isSpace with
  | '"' :: body =>
    if body.contains '"' then
      match readQuoted 1 [] body with
      | (quoted, '"' :: ']' :: rest, _) => .ok (name ++ '.' :: quoted, rest)
      | (_, _, column) => .error (.textAfterQuotes, some column)
    else .error (.missingClosingQuote, none)
  | _ => .error (.missingQuotes, none)

/-- Reads the name in a header; `column` is the number of its next character. -/
def readName (column : Nat) (name : List Char) :
    List Char → Except HeaderFault (List Char × List Char)
  | [] => .error (.missingBracket, none)
  | c :: rest =>
    if isSpace c then readSubsection name rest
    else if !isKeyChar c && c != '.' then .error (.headerCharacter, some column)
    else
      match rest with
      | ']' :: rest => .ok (name ++ [c.toLower], rest)
      | rest => readName (column + 1) (name ++ [c.toLower]) rest

/-- Reads the headers at the front of a line, at most so many. Gives the section, the rest of the
line, and whether there was a header. -/
def readHeaders : Nat → Option String → Bool → List Char →
    Except HeaderFault (Option String × List Char × Bool)
  | 0, current, found, cs => .ok (current, cs, found)
  | n + 1, current, found, cs =>
    match cs.dropWhile isSpace with
    | '[' :: rest =>
      let line := untilNul rest
      if line.contains ']' then
        match readName 2 [] line with
        | .ok (name, after) =>
          readHeaders n (some (String.ofList name)) true (rest.drop (line.length - after.length))
        | .error fault => .error fault
      else .error (.missingBracket, none)
    | _ => .ok (current, cs, found)

/-! ## Values -/

/-- The text before a comment, and the number of quotes that count; `quotes` is their number before
the text. A comment does not start between quotes or after a backslash. -/
def beforeComment (previous : Option Char) (escaped : Bool) (quotes : Nat) :
    List Char → List Char × Nat
  | [] => ([], quotes)
  | c :: rest =>
    let quotes :=
      if c == '"' && previous.isSome && previous != some '\\' then quotes + 1 else quotes
    if (c == ';' || c == '#') && quotes % 2 == 0 && !escaped then ([], quotes)
    else
      let (text, quotes) := beforeComment (some c) (c == '\\' && !escaped) quotes rest
      (c :: text, quotes)

/-- The text of a line without its comment and the white space at its end. -/
def content (quotes : Nat) (line : List Char) : List Char × Nat :=
  let (text, quotes) := beforeComment none false quotes (untilNul line)
  (Text.stripEnd isSpace text, quotes)

/-- The character that an escape stands for. -/
def unescape? : Char → Option Char
  | 'n' => some '\n'
  | 't' => some '\t'
  | 'b' => some '\x08'
  | '"' => some '"'
  | '\\' => some '\\'
  | _ => none

/-- Reads a value without its quotes, and says whether it goes on in the next line. An escape that
stands for nothing is given back with what follows it. -/
def readValue : List Char → Except (List Char) (List Char × Bool)
  | [] => .ok ([], false)
  | ['\\'] => .ok ([], true)
  | '\\' :: c :: rest =>
    match unescape? c with
    | none => .error (c :: rest)
    | some d => (readValue rest).map fun (text, more) => (d :: text, more)
  | '"' :: rest => readValue rest
  | c :: rest => (readValue rest).map fun (text, more) => (c :: text, more)

/-- The name of a line, and what stands after an equals sign. -/
def splitKey (line : List Char) : Option (List Char × Option (List Char)) :=
  match line.takeWhile isKeyChar with
  | [] => none
  | name =>
    match (line.dropWhile isKeyChar).dropWhile isSpace with
    | [] => some (name, none)
    | '=' :: value => some (name, some (value.dropWhile isSpace))
    | _ => none

/-! ## Lines -/

/-- A value that goes on in the next line. -/
structure Unfinished where
  name : String
  text : List Char
  quotes : Nat

/-- What was read: the entries, and the fault that stopped reading. -/
structure Parsed where
  entries : List Entry := []
  fault : Option Fault := none

/-- The entry before what was read. -/
def Parsed.cons (entry : Entry) (parsed : Parsed) : Parsed :=
  { parsed with entries := entry :: parsed.entries }

/-- The name of an entry in a section. -/
def fullName (current : Option String) (name : List Char) : String :=
  (current.elim "" (· ++ ".")) ++ String.ofList (name.map Char.toLower)

/-- What a line holds after its headers. -/
inductive Line
  | nothing
  | entry (entry : Entry)
  | unfinished (value : Unfinished)
  | fault (fault : Fault)

/-- Reads a line after its headers; `number` is the number of the line. -/
def readEntry (number : Nat) (current : Option String) (found : Bool) (cs : List Char) : Line :=
  match cs.dropWhile isSpace with
  | [] =>
    match cs with
    | '\x0b' :: _ | '\x0c' :: _ =>
      if found then .nothing else .fault (.misuse .key number none)
    | _ => .nothing
  | c :: rest =>
    if c = ';' ∨ c = '#' then .nothing
    else
      let (text, quotes) := content 0 (c :: rest)
      match splitKey text with
      | none => .fault (.misuse .key number none)
      | some (name, none) => .entry ⟨fullName current name, none⟩
      | some (name, some value) =>
        match readValue value with
        | .error rest => .fault (.escape (String.ofList rest))
        | .ok (value, true) => .unfinished ⟨fullName current name, value, quotes % 2⟩
        | .ok (value, false) => .entry ⟨fullName current name, some (String.ofList value)⟩

/-- Reads a line onto a value. -/
def Unfinished.extend (value : Unfinished) (line : List Char) : Line :=
  let finished : Entry := ⟨value.name, some (String.ofList value.text)⟩
  if line.head? = some '\x00' then .entry finished
  else
    match content value.quotes line with
    | ([], quotes) => .unfinished { value with quotes }
    | (text, quotes) =>
      match readValue text with
      | .error rest => .fault (.escape (String.ofList rest))
      | .ok (more, true) => .unfinished ⟨value.name, value.text ++ more, quotes⟩
      | .ok (more, false) => .entry ⟨value.name, some (String.ofList (value.text ++ more))⟩

/-- Reads lines, of which the first has the given number. -/
def readLines (number : Nat) (current : Option String) (value : Option Unfinished) :
    List (List Char) → Parsed
  | [] =>
    match value with
    | some value => { entries := [⟨value.name, some (String.ofList value.text)⟩] }
    | none => {}
  | line :: rest =>
    let read : Except HeaderFault (Option String × Line) :=
      match value with
      | some value => .ok (current, value.extend line)
      | none =>
        (readHeaders (line.length + 1) current false line).map fun (current, cs, found) =>
          (current, readEntry number current found cs)
    match read with
    | .error (what, column) => { fault := some (.misuse what number column) }
    | .ok (current, .nothing) => readLines (number + 1) current none rest
    | .ok (current, .entry entry) => (readLines (number + 1) current none rest).cons entry
    | .ok (current, .unfinished value) => readLines (number + 1) current (some value) rest
    | .ok (_, .fault fault) => { fault := some fault }

/-- The lines of a text; a line break at its end opens no further line. -/
def linesOf (text : String) : List (List Char) :=
  let lines := (text.splitOn "\n").map String.toList
  if lines.getLast? = some [] then lines.dropLast else lines

/-- Reads a configuration. A byte order mark at its front is passed over, and one that starts with a
NUL is empty. -/
def parse (text : String) : Parsed :=
  match text.toList with
  | '\x00' :: _ => {}
  | '\uFEFF' :: rest => readLines 1 none none (linesOf (String.ofList rest))
  | _ => readLines 1 none none (linesOf text)

end Stagehand.Repository.Config
