import Stagehand.Message.BreakingMark
import Stagehand.Message.Candidate
import Stagehand.Message.Prompt
import Stagehand.Session.Event
/-!
# Proposing a message

The model is consulted about the staged changes, and its cleaned answer is the candidate. A model
that fails is complained about and counts as one that answered nothing; only a failing request for
the changes leaves no candidate.
-/

namespace Stagehand.Session

/-- The repository and the model as a session meets them. -/
structure Collaborators (σ : Type) where
  diff : σ → Except VcsError String × σ
  model : Runner σ
  commit : String → σ → Except VcsError Unit × σ

/-- The line about a model that failed. -/
def complaint : ModelError → String
  | .timeout _ => "Error: LLM query timed out."
  | e => s!"Error running LLM: {e.message}"

/-- The text of a reply: the trimmed output, or nothing if the model failed. -/
def replyText : Except ModelError String → String
  | .ok output => Text.trim output
  | .error _ => ""

/-- The complaints about a reply. -/
def complaints : Except ModelError String → Trace
  | .ok _ => []
  | .error e => [.complain (complaint e)]

variable {σ : Type}

/-- Asks the model, and gives the text of its reply and what happened. -/
def consult (runner : Runner σ) (prompt : String) (echo : Bool) (s : σ) : String × Trace × σ :=
  let (reply, s) := runner.run prompt echo s
  (replyText reply.result, .model prompt echo reply :: complaints reply.result, s)

/-- Makes a candidate for the staged changes. -/
def propose (c : Collaborators σ) (s : σ) : Except VcsError String × Trace × σ :=
  match c.diff s with
  | (.error e, s) => (.error e, [.diff (.error e)], s)
  | (.ok diff, s) =>
    let (text, trace, s) := consult c.model (Message.prompt diff) false s
    (.ok (Message.clean text), .diff (.ok diff) :: trace, s)

/-- The lines that present a candidate. -/
def presentation (candidate : String) : Trace :=
  [.show "", .show "Proposed commit message:", .show candidate] ++
    if Message.isBreaking candidate then [.show "(flagged as a breaking change)"] else []

end Stagehand.Session
