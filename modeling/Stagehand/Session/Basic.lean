import Stagehand.Session.Choice
import Stagehand.Session.Proposal
/-!
# The session

A session proposes a message and waits at the menu; from there an answer leads to a commit, to the
editor, to a new proposal, back to the menu or to the end. `Session.answer` is one such step: it
takes one answer, or the failure to read one, and says what happens and where the session stands
then. `Session.run` feeds it a list of answers; past the end of the list no answer can be read, and
that ends every session.
-/

namespace Stagehand

/-- How a session ends. -/
inductive Outcome
  | committed
  | commitFailed
  | cancelled
  deriving DecidableEq, Repr

/-- The exit code for the outcome: zero for a commit alone. -/
def Outcome.exitCode : Outcome → UInt8
  | .committed => 0
  | .commitFailed | .cancelled => 1

namespace Session

/-- The question at the menu. -/
def menuPrompt : String := "Do you want to (a)ccept, (e)dit, (r)egenerate, or (c)ancel?"

/-- The question for a message of the user's own. -/
def editPrompt : String := "Enter your commit message"

/-- Where a session waits for an answer, and with which candidate. -/
inductive Waiting
  | menu (candidate : String)
  | editor (candidate : String)
  deriving DecidableEq, Repr

/-- Where a session stands: it waits, or it has ended. -/
inductive Stand
  | waiting (question : Waiting)
  | ended (result : Except VcsError Outcome)

/-- What a step leads to: what happened, where the session stands, and the world after it. -/
structure Step (σ : Type) where
  trace : Trace
  stand : Stand
  world : σ

variable {σ : Type}

/-- Goes to the menu with a candidate after what has happened. -/
def toMenu (happened : Trace) (candidate : String) (s : σ) : Step σ :=
  ⟨happened ++ presentation candidate, .waiting (.menu candidate), s⟩

/-- Makes a proposal after what has happened, and goes to the menu with it. -/
def toProposal (c : Collaborators σ) (happened : Trace) (s : σ) : Step σ :=
  match propose c s with
  | (.error e, trace, s) => ⟨happened ++ trace, .ended (.error e), s⟩
  | (.ok candidate, trace, s) => toMenu (happened ++ trace) candidate s

/-- Ends without a commit after what has happened. -/
def toCancel (happened : Trace) (s : σ) : Step σ :=
  ⟨happened ++ [.show "Commit cancelled."], .ended (.ok .cancelled), s⟩

/-- Commits a message after what has happened, and says how it went. -/
def toCommit (c : Collaborators σ) (happened : Trace) (message success failure : String) (s : σ) :
    Step σ :=
  match c.commit message s with
  | (.ok (), s) =>
    ⟨happened ++ [.commit message (.ok ()), .show success], .ended (.ok .committed), s⟩
  | (.error e, s) =>
    ⟨happened ++ [.commit message (.error e), .show failure], .ended (.ok .commitFailed), s⟩

/-- Accepts the candidate, unless it is blank. -/
def accept (c : Collaborators σ) (happened : Trace) (candidate : String) (s : σ) : Step σ :=
  if Text.isBlankText candidate then
    toMenu (happened ++ [.show "The proposed message is empty. Edit or regenerate it first."])
      candidate s
  else
    toCommit c happened candidate "Changes committed successfully!"
      "Commit failed. Please check your changes and try again." s

/-- Commits the message that the user wrote, unless it is blank. -/
def replace (c : Collaborators σ) (happened : Trace) (candidate line : String) (s : σ) : Step σ :=
  if Text.isBlankText line then
    toMenu (happened ++ [.show "Empty message, keeping the proposed one."]) candidate s
  else
    toCommit c happened (Text.trim line) "Changes committed successfully with your message!"
      "Commit failed. Please check your message and try again." s

/-- Follows a choice at the menu. -/
def choose (c : Collaborators σ) (happened : Trace) (candidate : String) (s : σ) :
    Except InvalidChoice Choice → Step σ
  | .ok .accept => accept c happened candidate s
  | .ok .edit => ⟨happened, .waiting (.editor candidate), s⟩
  | .ok .regenerate => toProposal c (happened ++ [.show "Regenerating commit message..."]) s
  | .ok .cancel => toCancel happened s
  | .error _ => toMenu (happened ++ [.show "Invalid choice. Please try again."]) candidate s

/-- The question that is asked where the session waits. -/
def Waiting.prompt : Waiting → String
  | .menu _ => menuPrompt
  | .editor _ => editPrompt

/-- Takes an answer, or the failure to read one. -/
def answer (c : Collaborators σ) (waiting : Waiting) (reply : Option String) (s : σ) : Step σ :=
  let asked : Trace := [.ask waiting.prompt reply]
  match reply, waiting with
  | none, _ => toCancel asked s
  | some line, .menu candidate => choose c asked candidate s (Choice.ofAnswer line)
  | some line, .editor candidate => replace c asked candidate line s

/-- Opens a session. -/
def start (c : Collaborators σ) (s : σ) : Step σ :=
  toProposal c [.show "Generating..."] s

/-- A whole session: what happened, how it ended, the answers that were not read, and the world
after it. -/
structure Run (α σ : Type) where
  trace : Trace
  result : Except VcsError Outcome
  unread : α
  world : σ

/-- The run preceded by what had happened before. -/
def Run.after {α : Type} (happened : Trace) (run : Run α σ) : Run α σ :=
  { run with trace := happened ++ run.trace }

/-- The run that ends where a step has ended. -/
def Run.ended {α : Type} (trace : Trace) (result : Except VcsError Outcome) (unread : α) (s : σ) :
    Run α σ :=
  ⟨trace, result, unread, s⟩

/-- The run that ends because the question it waits at is never answered. -/
def Run.unanswered {α : Type} (trace : Trace) (waiting : Waiting) (unread : α) (s : σ) :
    Run α σ :=
  ⟨trace ++ (toCancel [.ask waiting.prompt none] s).trace, .ok .cancelled, unread, s⟩

/-- Goes on from a step with a list of answers; an answer that is missing could not be read. -/
def follow (c : Collaborators σ) :
    Step σ → List (Option String) → Run (List (Option String)) σ
  | ⟨trace, .ended result, s⟩, answers => .ended trace result answers s
  | ⟨trace, .waiting waiting, s⟩, [] => .unanswered trace waiting [] s
  | ⟨trace, .waiting waiting, s⟩, reply :: rest =>
    (follow c (answer c waiting reply s) rest).after trace

/-- Runs a session on a list of answers. -/
def run (c : Collaborators σ) (answers : List (Option String)) (s : σ) :
    Run (List (Option String)) σ :=
  follow c (start c s) answers

end Session

end Stagehand
