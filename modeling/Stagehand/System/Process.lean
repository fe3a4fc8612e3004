import Stagehand.System.Error
import Stagehand.Text.Utf8
/-!
# Processes

A command names a program, its arguments and where its standard input comes from. Starting it either
fails or gives a process, which is known by its behaviour: what it writes, how long it stays alive
after that, and how it ends.
-/

namespace Stagehand

/-- The number of a signal. -/
structure Signal where
  number : Nat
  one_le : 1 ≤ number
  le_64 : number ≤ 64
  deriving DecidableEq, Repr

/-- The signal of a number, if there is one. -/
def Signal.ofNat? (n : Nat) : Option Signal :=
  if h : 1 ≤ n ∧ n ≤ 64 then some ⟨n, h.1, h.2⟩ else none

/-- How a process ended. -/
inductive Ending
  | exited (code : UInt8)
  | killed (signal : Signal)
  deriving DecidableEq, Repr

namespace Ending

/-- The process ended by itself and reported no failure. -/
def succeeded (ending : Ending) : Bool :=
  ending == .exited 0

@[simp] theorem succeeded_iff (ending : Ending) : ending.succeeded = true ↔ ending = .exited 0 :=
  beq_iff_eq

/-- The exit code, unless a signal ended the process. -/
def code? : Ending → Option Int
  | .exited code => some code.toNat
  | .killed _ => none

/-- The ending as one number: the exit code, or 128 more than the signal. -/
def status : Ending → Int
  | .exited code => code.toNat
  | .killed signal => 128 + signal.number

theorem status_eq_zero_iff (ending : Ending) : ending.status = 0 ↔ ending = .exited 0 := by
  cases ending with
  | exited code =>
    simp only [status, exited.injEq]
    rw [← UInt8.toNat_inj]
    simp
  | killed signal =>
    simp only [status, reduceCtorEq, iff_false]
    omega

end Ending

/-- An exit code in words; a process that a signal ended has none. -/
def exitWording : Option Int → String
  | some code => s!"code {code}"
  | none => "unknown status"

/-- What a process does. Writing takes no time; `linger` is how many milliseconds it stays alive
after it has written everything. -/
structure Behaviour where
  readsInput : Bool := false
  output : Bytes := []
  errors : Bytes := []
  linger : Nat := 0
  ending : Ending := .exited 0
  deriving DecidableEq, Repr

/-- Where the standard input of a process comes from. -/
inductive Input
  /-- It is empty. -/
  | nothing
  /-- It holds these bytes. -/
  | piped (bytes : Bytes)
  /-- It is the standard input of the program that starts the process. -/
  | shared
  deriving DecidableEq, Repr

/-- A program to start. -/
structure Command where
  program : String
  arguments : List String
  input : Input := .nothing
  /-- The directory to start it in, if not the current one. -/
  workdir : Option String := none
  deriving DecidableEq, Repr

/-- The text holds a NUL. -/
def hasNul (s : String) : Bool :=
  s.toList.contains '\x00'

/-- A text of the command holds a NUL, so that the operating system cannot be given it. -/
def Command.hasNul (c : Command) : Bool :=
  Stagehand.hasNul c.program || c.arguments.any Stagehand.hasNul || c.workdir.any Stagehand.hasNul

/-- What starting a command leads to. -/
abbrev Launch := Except SystemError Behaviour

/-- A command with what starting it led to. -/
structure Attempt where
  command : Command
  launch : Launch

/-- The attempt gave a process. -/
def Attempt.started (a : Attempt) : Bool :=
  a.launch.isOk

end Stagehand
