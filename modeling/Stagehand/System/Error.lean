/-!
# Failures of the operating system

A failure is either known by its number, and then has a fixed wording, or comes with its own text.
-/

namespace Stagehand

/-- Why the operating system refused a request. -/
inductive SystemError
  /-- A numbered failure. -/
  | numbered (number : Nat)
  /-- A failure with its own text. -/
  | described (text : String)
  deriving DecidableEq, Repr

namespace SystemError

/-- There is nothing under that name. -/
def noSuchEntry : SystemError := .numbered 2

/-- The arguments of a command do not fit. -/
def argumentsTooLong : SystemError := .numbered 7

/-- The file may not be used in that way. -/
def permissionDenied : SystemError := .numbered 13

/-- A directory was needed. -/
def notADirectory : SystemError := .numbered 20

/-- The name does not fit. -/
def nameTooLong : SystemError := .numbered 36

/-- A text for the operating system holds a NUL, where it would end. -/
def nulByte : SystemError := .described "nul byte found in provided data"

/-- The wording of a numbered failure. -/
def wording : Nat → String
  | 1 => "Operation not permitted"
  | 2 => "No such file or directory"
  | 4 => "Interrupted system call"
  | 5 => "Input/output error"
  | 7 => "Argument list too long"
  | 8 => "Exec format error"
  | 9 => "Bad file descriptor"
  | 11 => "Resource temporarily unavailable"
  | 12 => "Cannot allocate memory"
  | 13 => "Permission denied"
  | 17 => "File exists"
  | 20 => "Not a directory"
  | 21 => "Is a directory"
  | 22 => "Invalid argument"
  | 24 => "Too many open files"
  | 26 => "Text file busy"
  | 28 => "No space left on device"
  | 30 => "Read-only file system"
  | 32 => "Broken pipe"
  | 36 => "File name too long"
  | 40 => "Too many levels of symbolic links"
  | number => s!"Unknown error {number}"

/-- The failure in words. -/
def message : SystemError → String
  | .numbered number => s!"{wording number} (os error {number})"
  | .described text => text

end SystemError

end Stagehand
