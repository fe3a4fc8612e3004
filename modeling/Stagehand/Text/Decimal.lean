/-!
# Decimal numbers within a limit

A number is written as an optional plus sign and at least one digit. It is read from the left, and
the first fault found is the one reported: a character that is no digit, or a value past the limit.
-/

namespace Stagehand.Text.Decimal

/-- Why a text is not a number within the limit. -/
inductive Fault
  | empty
  | invalidDigit
  | tooLarge
  deriving DecidableEq, Repr

/-- The fault in words. -/
def Fault.message : Fault → String
  | .empty => "cannot parse integer from empty string"
  | .invalidDigit => "invalid digit found in string"
  | .tooLarge => "number too large to fit in target type"

/-- The value of a decimal digit. -/
def digit? (c : Char) : Option Nat :=
  if '0' ≤ c ∧ c ≤ '9' then some (c.toNat - '0'.toNat) else none

/-- Reads the remaining digits onto the value read so far. -/
def readDigits (limit : Nat) (value : Nat) : List Char → Except Fault Nat
  | [] => .ok value
  | c :: rest =>
    match digit? c with
    | none => .error .invalidDigit
    | some d =>
      if value * 10 + d ≤ limit then readDigits limit (value * 10 + d) rest
      else .error .tooLarge

/-- Reads a number that is at most the limit. -/
def read (limit : Nat) (s : String) : Except Fault Nat :=
  match s.toList with
  | [] => .error .empty
  | ['+'] => .error .invalidDigit
  | '+' :: digits => readDigits limit 0 digits
  | digits => readDigits limit 0 digits

/-- The largest number of 64 bits. -/
def max64 : Nat := 0xFFFFFFFFFFFFFFFF

end Stagehand.Text.Decimal
