import Stagehand.Repository.Config.Syntax
/-!
# The values of a configuration

Of several entries with one name the last counts. A value is read as a number, which may be written
in another base and with a unit, or as one of the words for yes and no.
-/

namespace Stagehand.Repository.Config

/-- The entry with the name that counts. -/
def find? (entries : List Entry) (name : String) : Option Entry :=
  entries.reverse.find? (·.name == name)

/-- The value of a digit in a base up to 36. -/
def digit? (base : Nat) (c : Char) : Option Nat :=
  let value :=
    if c.isDigit then c.toNat - '0'.toNat
    else if c.isLower then c.toNat - 'a'.toNat + 10
    else if c.isUpper then c.toNat - 'A'.toNat + 10
    else base
  if value < base then some value else none

/-- The base that a number is written in, and its digits: `0x` goes before hexadecimal digits and
`0` before octal ones. -/
def baseOf : List Char → Nat × List Char
  | '0' :: 'x' :: c :: rest | '0' :: 'X' :: c :: rest => (16, c :: rest)
  | '0' :: rest => (8, '0' :: rest)
  | cs => (10, cs)

/-- The sign of a number, and what follows it. -/
def signOf : List Char → Int × List Char
  | '-' :: rest => (-1, rest)
  | '+' :: rest => (1, rest)
  | cs => (1, cs)

/-- The factor of a unit. -/
def factor? : List Char → Option Int
  | [] => some 1
  | ['k'] | ['K'] => some 1024
  | ['m'] | ['M'] => some (1024 * 1024)
  | ['g'] | ['G'] => some (1024 * 1024 * 1024)
  | _ => none

/-- The number that a value stands for, if it has 32 bits. -/
def number? (value : String) : Option Int :=
  let (sign, cs) := signOf (value.toList.dropWhile isSpace)
  let (base, cs) := baseOf cs
  let digits := cs.takeWhile fun c => (digit? base c).isSome
  match digits, factor? (cs.drop digits.length) with
  | [], _ | _, none => none
  | digits, some factor =>
    let magnitude := digits.foldl (fun n c => n * base + (digit? base c).getD 0) 0
    let n := sign * magnitude * factor
    if -0x80000000 ≤ n ∧ n < 0x80000000 then some n else none

/-- Whether a value stands for yes; a name without a value does, and so does every number but
zero. -/
def truth? : Option String → Option Bool
  | none => some true
  | some value =>
    match value.toLower with
    | "true" | "yes" | "on" => some true
    | "false" | "no" | "off" | "" => some false
    | _ => (number? value).map (· != 0)

end Stagehand.Repository.Config
