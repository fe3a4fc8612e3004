/-!
# UTF-8

Bytes and their reading as text. A reader goes over the bytes one at a time (`State.accept`); the
strict reader `decode?` gives up at the first byte that no text can have, and the lenient reader
`decodeLossy` writes one replacement character for every longest run of bytes that begins a
character and is broken off. `encode` is the inverse of both on text.
-/

namespace Stagehand

/-- Raw data: what is read from and written to other programs. -/
abbrev Bytes := List UInt8

namespace Text.Utf8

/-- The bytes of a text. -/
def encode (s : String) : Bytes :=
  s.toList.flatMap String.utf8EncodeChar

/-- Where a reader stands between two bytes. -/
inductive State
  /-- Between characters. -/
  | start
  /-- Inside a character: `more` bytes are owed after the next one, the next one lies between `low`
  and `high`, and `value` holds the bits read so far. -/
  | inside (more : Nat) (low high : UInt8) (value : Nat)
  deriving DecidableEq, Repr

/-- The state after the first byte of a character of several bytes. The range of the second byte
leaves out overlong forms, surrogates and values past the last code point. -/
def State.ofLead? (b : UInt8) : Option State :=
  if 0xC2 ≤ b ∧ b ≤ 0xDF then some (.inside 0 0x80 0xBF (b.toNat - 0xC0))
  else if b = 0xE0 then some (.inside 1 0xA0 0xBF 0)
  else if b = 0xED then some (.inside 1 0x80 0x9F 0xD)
  else if 0xE1 ≤ b ∧ b ≤ 0xEF then some (.inside 1 0x80 0xBF (b.toNat - 0xE0))
  else if b = 0xF0 then some (.inside 2 0x90 0xBF 0)
  else if 0xF1 ≤ b ∧ b ≤ 0xF3 then some (.inside 2 0x80 0xBF (b.toNat - 0xF0))
  else if b = 0xF4 then some (.inside 2 0x80 0x8F 4)
  else none

/-- Reads one byte: the characters it completes (at most one) and the state after it, or nothing
where the byte cannot follow. -/
def State.accept : State → UInt8 → Option (List Char × State)
  | .start, b =>
    if b < 0x80 then some ([Char.ofNat b.toNat], .start)
    else (State.ofLead? b).map ([], ·)
  | .inside more low high value, b =>
    if low ≤ b ∧ b ≤ high then
      let value := value * 64 + (b.toNat - 0x80)
      match more with
      | 0 => some ([Char.ofNat value], .start)
      | more + 1 => some ([], .inside more 0x80 0xBF value)
    else none

/-- Strict reading from a state: nothing unless the bytes are whole characters. -/
def decodeFrom? : State → Bytes → Option (List Char)
  | .start, [] => some []
  | .inside .., [] => none
  | state, b :: rest =>
    match state.accept b with
    | some (cs, next) => (decodeFrom? next rest).map (cs ++ ·)
    | none => none

/-- The character that stands for bytes that are no text. -/
def replacement : Char := '\uFFFD'

/-- Reads one byte leniently. A byte that cannot follow ends the character under way, which is
replaced, and is read again as the start of a character; there it is replaced itself if it starts
none. -/
def State.acceptLossy (state : State) (b : UInt8) : List Char × State :=
  match state.accept b with
  | some read => read
  | none =>
    match state with
    | .start => ([replacement], .start)
    | .inside .. =>
      match State.start.accept b with
      | some (cs, next) => (replacement :: cs, next)
      | none => ([replacement, replacement], .start)

/-- What the end of the bytes adds: a replacement for a character under way. -/
def State.finish : State → List Char
  | .start => []
  | .inside .. => [replacement]

/-- Lenient reading from a state. -/
def decodeLossyFrom : State → Bytes → List Char
  | state, [] => state.finish
  | state, b :: rest =>
    let (cs, next) := state.acceptLossy b
    cs ++ decodeLossyFrom next rest

/-- The text of the bytes, if they are UTF-8. -/
def decode? (bytes : Bytes) : Option String :=
  (decodeFrom? .start bytes).map String.ofList

/-- The text of the bytes, with a replacement character for every longest broken-off run. -/
def decodeLossy (bytes : Bytes) : String :=
  String.ofList (decodeLossyFrom .start bytes)

theorem encode_append (s t : String) : encode (s ++ t) = encode s ++ encode t := by
  simp [encode]

end Text.Utf8

end Stagehand
