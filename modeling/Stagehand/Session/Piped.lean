import Stagehand.Session.Basic
import Stagehand.Text.Line
/-!
# Answers from a pipe

A session whose answers come from standard input as bytes: each question takes the bytes up to and
with the next newline. The answer cannot be read at the end of the input, nor where the bytes taken
are not text.
-/

namespace Stagehand.Session

variable {σ : Type}

/-- Goes on from a step with the bytes that are still to be read. -/
def followBytes (c : Collaborators σ) : Step σ → Bytes → Run Bytes σ
  | ⟨trace, .ended result, s⟩, bytes => .ended trace result bytes s
  | ⟨trace, .waiting waiting, s⟩, [] => .unanswered trace waiting [] s
  | ⟨trace, .waiting waiting, s⟩, b :: rest =>
    let line := (Text.takeLine (b :: rest)).1
    (followBytes c (answer c waiting (Text.Utf8.decode? line) s)
      (Text.takeLine (b :: rest)).2).after trace
termination_by _ bytes => bytes.length
decreasing_by exact Text.length_takeLine b rest

/-- Runs a session on the bytes of standard input. -/
def runBytes (c : Collaborators σ) (input : Bytes) (s : σ) : Run Bytes σ :=
  followBytes c (start c s) input

/-- The answers that the bytes of standard input hold. -/
def answersOf (input : Bytes) : List (Option String) :=
  (Text.pieces input).map Text.Utf8.decode?

end Stagehand.Session
