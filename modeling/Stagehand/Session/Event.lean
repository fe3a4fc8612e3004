import Stagehand.Model.Runner
import Stagehand.Repository.Error
/-!
# The events of a session

All that a session does and is told, in order: what it shows, what it asks and is answered, and what
it asks of the repository and of the model with their replies. What a session writes to standard
output and to standard error can be read off its events.
-/

namespace Stagehand.Session

/-- One step of the conversation. -/
inductive Event
  /-- A line for the user. -/
  | show (text : String)
  /-- A question, and the answer to it if it could be read. -/
  | ask (prompt : String) (answer : Option String)
  /-- A request for the staged changes. -/
  | diff (reply : Except VcsError String)
  /-- A question to the model. -/
  | model (prompt : String) (echo : Bool) (reply : ModelReply)
  /-- A commit. -/
  | commit (message : String) (reply : Except VcsError Unit)
  /-- A line about a failure. -/
  | complain (text : String)

/-- What the session does and is told. -/
abbrev Trace := List Event

/-- What an event writes to standard output. -/
def Event.output : Event → String
  | .show text => text ++ "\n"
  | .ask prompt _ => prompt ++ " "
  | .model _ _ reply => reply.echoed
  | .diff _ | .commit .. | .complain _ => ""

/-- What an event writes to standard error. -/
def Event.errors : Event → String
  | .complain text => text ++ "\n"
  | _ => ""

/-- What a session writes to standard output. -/
def Trace.output (trace : Trace) : String :=
  String.join (trace.map Event.output)

/-- What a session writes to standard error. -/
def Trace.errors (trace : Trace) : String :=
  String.join (trace.map Event.errors)

end Stagehand.Session
