/-!
# Control sequences

Text for a terminal may hold sequences that a terminal obeys and does not show. A sequence starts
with an escape character and ends where its kind says. `withoutControls` gives what is left for a
reader without a terminal: the characters that are shown, and tabs and line breaks. A tab or line
break inside a sequence is shown as well, and so is what follows it up to the next character that
is not shown; there the sequence goes on. `marked` puts a text between two sequences.
-/

namespace Stagehand.Text

namespace ControlSequence

/-- The character that starts a sequence. -/
def escape : Char := '\x1b'

/-- Where a reader stands. -/
inductive State
  /-- Outside of sequences. -/
  | text
  /-- After the escape character. -/
  | opened
  /-- In a sequence of intermediate characters and one final character. -/
  | designation
  /-- In a sequence that a letter ends. -/
  | control
  /-- At the front of a device string. -/
  | device
  /-- Among the parameters of a device string. -/
  | deviceParameters
  /-- Among the intermediate characters of a device string. -/
  | deviceIntermediate
  /-- In the body of a string, which a new sequence ends. -/
  | body
  /-- In the string of an operating system command, which a bell ends. -/
  | command
  deriving DecidableEq, Repr

/-- The character lies between the two. -/
def between (first last c : Char) : Bool :=
  first ≤ c && c ≤ last

/-- One byte of the character, read alone, ends a string. -/
def endsBody (c : Char) : Bool :=
  (String.utf8EncodeChar c).contains 0x9C

/-- The state after a character that has no meaning of its own outside of the state. -/
def State.next : State → Char → State
  | .text, _ => .text
  | .opened, c =>
    if c = '[' then .control
    else if c = ']' then .command
    else if c = 'P' then .device
    else if c = 'X' ∨ c = '^' ∨ c = '_' then .body
    else if between ' ' '/' c then .designation
    else if between '0' '~' c then .text
    else .opened
  | .designation, c => if between '0' '~' c then .text else .designation
  | .control, c => if between '@' '~' c then .text else .control
  | .device, c =>
    if between '@' '~' c then .body
    else if between '0' '?' c then .deviceParameters
    else if between ' ' '/' c then .deviceIntermediate
    else .device
  | .deviceParameters, c =>
    if between '<' '~' c then .body
    else if between ' ' '/' c then .deviceIntermediate
    else .deviceParameters
  | .deviceIntermediate, c => if between '0' '~' c then .body else .deviceIntermediate
  | .body, c => if endsBody c then .text else .body
  | .command, c => if c = '\x07' then .text else .command

/-- The state after a character. An escape starts a new sequence wherever it stands, and two
characters cancel every sequence. -/
def State.after (state : State) (c : Char) : State :=
  if c = escape then .opened
  else if c = '\x18' ∨ c = '\x1a' then .text
  else state.next c

/-- The character is a tab or a line break. -/
def isBreak (c : Char) : Bool :=
  c == '\t' || c == '\n' || c == '\x0c' || c == '\r'

/-- The character is shown outside of sequences. -/
def isShown (c : Char) : Bool :=
  isBreak c || (' ' ≤ c && c != '\x7f')

/-- The sequence lets tabs and line breaks through. -/
def State.passesBreaks : State → Bool
  | .opened | .designation | .control => true
  | _ => false

/-- The shown characters of the rest of a text; `showing` says that the character before was
shown. -/
def shownFrom (showing : Bool) (state : State) : List Char → List Char
  | [] => []
  | c :: rest =>
    if showing ∨ state = .text then
      if isShown c then
        c :: shownFrom true (if c.toNat < 0x80 then state else .text) rest
      else shownFrom false (state.after c) rest
    else if state.passesBreaks && isBreak c then c :: shownFrom true state rest
    else shownFrom false (state.after c) rest

end ControlSequence

/-- The text as it is shown without a terminal. -/
def withoutControls (s : String) : String :=
  String.ofList (ControlSequence.shownFrom false .text s.toList)

/-- The text, set off from its surroundings on a terminal. -/
def marked (s : String) : String :=
  "\x1b[1m" ++ s ++ "\x1b[0m"

end Stagehand.Text
