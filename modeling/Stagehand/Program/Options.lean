import Stagehand.Text.ControlSequence
import Stagehand.Text.Decimal
/-!
# Options on a command line

The arguments of a command are switches, which stand for themselves, and settings, which take a
value: either after an equals sign or as the next argument. A command takes no other arguments. A
setting whose value is the next argument is settled only when the argument after that is an option
the command knows, or at the end; so a stray argument is reported before a fault in the value
before it.
-/

namespace Stagehand.Program

/-- What the value of a setting has to be. -/
inductive ValueRule
  /-- Any text. -/
  | any
  /-- A text that is not empty. -/
  | filled
  /-- A number of 64 bits other than zero. -/
  | positive
  deriving DecidableEq, Repr

/-- An option with a value. -/
structure Setting where
  long : String
  /-- What the value is called in messages. -/
  valueName : String
  rule : ValueRule
  deriving DecidableEq, Repr

/-- What a switch does. -/
inductive SwitchKind
  | mark
  | help
  | version
  deriving DecidableEq, Repr

/-- An option without a value. -/
structure Switch where
  long : String
  short : Char
  kind : SwitchKind
  deriving DecidableEq, Repr

/-- The options of a command. -/
structure Grammar where
  settings : List Setting
  switches : List Switch

/-- The setting as messages name it. -/
def Setting.shown (s : Setting) : String :=
  "--" ++ s.long ++ " <" ++ s.valueName ++ ">"

/-- The switch as messages name it. -/
def Switch.shown (s : Switch) : String :=
  "--" ++ s.long

/-- What is wrong with a command line. -/
inductive UsageError
  | unexpectedArgument (argument : String)
  | missingValue (option : String)
  | repeatedOption (option : String)
  | invalidValue (value option reason : String)
  | unneededValue (value option : String)
  | notText
  deriving DecidableEq, Repr

open Text (marked) in
/-- The fault in words. What was given is marked, so that control sequences in it end with it. -/
def UsageError.message : UsageError → String
  | .unexpectedArgument argument => s!"unexpected argument '{marked argument}' found"
  | .missingValue option => s!"a value is required for '{option}' but none was supplied"
  | .repeatedOption option => s!"the argument '{option}' cannot be used multiple times"
  | .invalidValue value option reason =>
    s!"invalid value '{marked value}' for '{option}': {reason}"
  | .unneededValue value option =>
    s!"unexpected value '{marked value}' for '{option}' found; no more were expected"
  | .notText => "invalid UTF-8 was detected in one or more arguments"

/-- Why a command line asks for no ordinary run. -/
inductive Stop
  | help
  | version
  | refused (e : UsageError)
  deriving DecidableEq, Repr

/-- Checks the value of a setting. -/
def Setting.check (s : Setting) (value : String) : Except UsageError Unit :=
  match s.rule with
  | .any => .ok ()
  | .filled => if value = "" then .error (.missingValue s.shown) else .ok ()
  | .positive =>
    match Text.Decimal.read Text.Decimal.max64 value with
    | .ok 0 => .error (.invalidValue value s.shown s!"0 is not in 1..{Text.Decimal.max64}")
    | .ok _ => .ok ()
    | .error fault => .error (.invalidValue value s.shown fault.message)

/-- What a command line has given so far. -/
structure Given where
  /-- The settings with their values. -/
  values : List (String × String) := []
  /-- The switches. -/
  marks : List String := []
  /-- A setting that is not settled, with its value if that was given. -/
  pending : Option (Setting × Option String) := none

namespace Given

/-- The value of a setting. -/
def value? (given : Given) (long : String) : Option String :=
  (given.values.find? (·.1 == long)).map (·.2)

/-- Adds a setting that has its value. -/
def addValue (given : Given) (s : Setting) (value : String) : Except UsageError Given :=
  if (given.value? s.long).isSome then .error (.repeatedOption s.shown)
  else
    match s.check value with
    | .ok () => .ok { given with values := (s.long, value) :: given.values }
    | .error e => .error e

/-- Settles the setting that is pending. -/
def settle (given : Given) : Except UsageError Given :=
  match given.pending with
  | none => .ok given
  | some (s, none) => .error (.missingValue s.shown)
  | some (s, some value) => { given with pending := none }.addValue s value

/-- Adds a switch. -/
def addSwitch (given : Given) (s : Switch) : Except Stop Given :=
  match given.settle with
  | .error e => .error (.refused e)
  | .ok given =>
    match s.kind with
    | .help => .error .help
    | .version => .error .version
    | .mark =>
      if given.marks.contains s.long then .error (.refused (.repeatedOption s.shown))
      else .ok { given with marks := s.long :: given.marks }

end Given

/-- The text before the first equals sign, and the text after it if there is one. -/
def splitValue (cs : List Char) : String × Option String :=
  match cs.dropWhile (· != '=') with
  | [] => (String.ofList cs, none)
  | _ :: value => (String.ofList (cs.takeWhile (· != '=')), some (String.ofList value))

namespace Grammar

/-- Adds a long option, whose text comes without its two dashes. -/
def addLong (g : Grammar) (given : Given) (text : List Char) : Except Stop Given :=
  let (name, attached) := splitValue text
  match g.settings.find? (·.long == name) with
  | some s =>
    match given.settle with
    | .error e => .error (.refused e)
    | .ok given =>
      match attached with
      | none => .ok { given with pending := some (s, none) }
      | some value => (given.addValue s value).mapError .refused
  | none =>
    match g.switches.find? (·.long == name), attached with
    | none, _ => .error (.refused (.unexpectedArgument ("--" ++ name)))
    | some s, some value => .error (.refused (.unneededValue value s.shown))
    | some s, none => given.addSwitch s

/-- Adds the switches that the letters after a single dash stand for. -/
def addShort (g : Grammar) (given : Given) : List Char → Except Stop Given
  | [] => .ok given
  | c :: rest =>
    match g.switches.find? (·.short == c) with
    | none => .error (.refused (.unexpectedArgument (String.ofList ['-', c])))
    | some s =>
      match given.addSwitch s with
      | .ok given => g.addShort given rest
      | .error stop => .error stop

/-- Adds an argument that is no option: the value that the pending setting lacks. -/
def addPlain (given : Given) (argument : String) : Except Stop Given :=
  match given.pending with
  | some (s, none) => .ok { given with pending := some (s, some argument) }
  | _ => .error (.refused (.unexpectedArgument argument))

/-- Reads the arguments that remain. Two dashes end the options, and nothing may follow them. -/
def scan (g : Grammar) (given : Given) : List String → Except Stop Given
  | [] => given.settle.mapError .refused
  | argument :: rest =>
    match argument.toList with
    | ['-', '-'] =>
      match rest with
      | [] => given.settle.mapError .refused
      | stray :: _ => .error (.refused (.unexpectedArgument stray))
    | '-' :: '-' :: text =>
      match g.addLong given text with
      | .ok given => g.scan given rest
      | .error stop => .error stop
    | '-' :: c :: letters =>
      match g.addShort given (c :: letters) with
      | .ok given => g.scan given rest
      | .error stop => .error stop
    | _ =>
      match addPlain given argument with
      | .ok given => g.scan given rest
      | .error stop => .error stop

/-- Reads a command line. -/
def read (g : Grammar) (arguments : List String) : Except Stop Given :=
  g.scan {} arguments

end Grammar

/-- The switches that every command has. -/
def commonSwitches : List Switch := [
  ⟨"verbose", 'v', .mark⟩, ⟨"help", 'h', .help⟩, ⟨"version", 'V', .version⟩]

end Stagehand.Program
