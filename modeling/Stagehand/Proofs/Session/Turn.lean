import Mathlib.Tactic.SplitIfs
import Stagehand.Session.Basic
/-!
# The turns of a session

All that one step of a session can lead to, with the events in full: `Proposed` lists what making
a proposal leads to (`proposed_toProposal`), and `Turn` what an answer leads to where the session
waits (`turn_answer`). A turn begins with the question that was waiting and asks no other; after it
there are lines, or a commit that ends the session, or a new proposal (`Turn.acts`).
Facts about runs are read off these relations, and the steps themselves are not looked at again.
-/

namespace Stagehand

/-- How a session ends when its commit came out so. -/
def Outcome.ofCommit : Except VcsError Unit → Outcome
  | .ok _ => .committed
  | .error _ => .commitFailed

namespace Session

/-! ## Kinds of events -/

/-- What an event is about. -/
inductive Kind
  | line
  | ask
  | diff
  | model
  | commit
  deriving DecidableEq, Repr

/-- The kind of an event; a line is a line to whichever output it goes. -/
def Event.kind : Event → Kind
  | .show _ | .complain _ => .line
  | .ask .. => .ask
  | .diff _ => .diff
  | .model .. => .model
  | .commit .. => .commit

/-- The event is an answer at the menu that asks for a new proposal. -/
def Event.regenerates : Event → Bool
  | .ask prompt (some line) =>
    prompt == menuPrompt &&
      match Choice.ofAnswer line with
      | .ok .regenerate => true
      | _ => false
  | _ => false

/-- Nothing of the kind happens. -/
def Lacks (k : Kind) (t : Trace) : Prop :=
  ∀ e ∈ t, e.kind ≠ k

/-- Nothing happens but lines that are shown. -/
def Lines (t : Trace) : Prop :=
  ∀ e ∈ t, e.kind = .line

theorem Lacks.cons {k : Kind} {e : Event} {t : Trace} (he : e.kind ≠ k) (ht : Lacks k t) :
    Lacks k (e :: t) :=
  List.forall_mem_cons.mpr ⟨he, ht⟩

theorem Lacks.append {k : Kind} {t u : Trace} (ht : Lacks k t) (hu : Lacks k u) :
    Lacks k (t ++ u) :=
  List.forall_mem_append.mpr ⟨ht, hu⟩

theorem Lacks.not_mem {k : Kind} {e : Event} {t : Trace} (ht : Lacks k t) (he : e.kind = k) :
    e ∉ t :=
  fun hmem => ht e hmem he

theorem Lacks.countP_eq_zero {k : Kind} {t : Trace} (ht : Lacks k t) :
    t.countP (·.kind == k) = 0 := by
  rw [List.countP_eq_zero]
  intro e he
  simpa using ht e he

theorem Lines.lacks {k : Kind} {t : Trace} (ht : Lines t) (hk : k ≠ .line) : Lacks k t := by
  intro e he
  rw [ht e he]
  exact hk.symm

theorem Lines.append {t u : Trace} (ht : Lines t) (hu : Lines u) : Lines (t ++ u) :=
  List.forall_mem_append.mpr ⟨ht, hu⟩

theorem Lines.cons {t : Trace} (text : String) (ht : Lines t) : Lines (.show text :: t) :=
  List.forall_mem_cons.mpr ⟨rfl, ht⟩

theorem lines_presentation (candidate : String) : Lines (presentation candidate) := by
  unfold Lines presentation
  split_ifs <;> simp [Event.kind]

theorem lines_complaints (reply : Except ModelError String) : Lines (complaints reply) := by
  unfold Lines complaints
  cases reply <;> simp [Event.kind]

/-- The candidate that a reply of the model makes: its text, trimmed and cleaned, or nothing. -/
def candidateOf : Except ModelError String → String
  | .ok output => Message.clean (Text.trim output)
  | .error _ => ""

theorem clean_replyText (reply : Except ModelError String) :
    Message.clean (replyText reply) = candidateOf reply := by
  cases reply <;> rfl

/-! ## Proposals -/

/-- What making a proposal can lead to. -/
inductive Proposed : Trace → Stand → Prop
  | failed (e : VcsError) : Proposed [.diff (.error e)] (.ended (.error e))
  | made (diff : String) (reply : ModelReply) :
      Proposed
        (.diff (.ok diff) :: .model (Message.prompt diff) false reply ::
          (complaints reply.result ++ presentation (candidateOf reply.result)))
        (.waiting (.menu (candidateOf reply.result)))

section

variable {σ : Type} (c : Collaborators σ)

theorem proposed_toProposal (happened : Trace) (s : σ) :
    ∃ t, (toProposal c happened s).trace = happened ++ t ∧
      Proposed t (toProposal c happened s).stand := by
  unfold toProposal propose consult toMenu
  rcases c.diff s with ⟨e | diff, s'⟩
  · exact ⟨_, rfl, .failed e⟩
  · simp only [clean_replyText]
    refine ⟨_, ?_, .made diff (c.model.run (Message.prompt diff) false s').1⟩
    simp

end

/-! ## Turns -/

/-- The line that tells how a commit came out. -/
def verdict (success failure : String) : Except VcsError Unit → String
  | .ok _ => success
  | .error _ => failure

/-- What one answer can lead to where a session waits: what happens, and where it stands then. -/
inductive Turn : Waiting → Trace → Stand → Prop
  | unread (waiting : Waiting) :
      Turn waiting [.ask waiting.prompt none, .show "Commit cancelled."]
        (.ended (.ok .cancelled))
  | cancel {candidate line : String} : Choice.ofAnswer line = .ok .cancel →
      Turn (.menu candidate) [.ask menuPrompt (some line), .show "Commit cancelled."]
        (.ended (.ok .cancelled))
  | accept {candidate line : String} (reply : Except VcsError Unit) :
      Choice.ofAnswer line = .ok .accept → Text.isBlankText candidate = false →
      Turn (.menu candidate)
        [.ask menuPrompt (some line), .commit candidate reply,
          .show (verdict "Changes committed successfully!"
            "Commit failed. Please check your changes and try again." reply)]
        (.ended (.ok (.ofCommit reply)))
  | acceptBlank {candidate line : String} :
      Choice.ofAnswer line = .ok .accept → Text.isBlankText candidate = true →
      Turn (.menu candidate)
        (.ask menuPrompt (some line) ::
          .show "The proposed message is empty. Edit or regenerate it first." ::
          presentation candidate)
        (.waiting (.menu candidate))
  | edit {candidate line : String} : Choice.ofAnswer line = .ok .edit →
      Turn (.menu candidate) [.ask menuPrompt (some line)] (.waiting (.editor candidate))
  | regenerate {candidate line : String} {t : Trace} {stand : Stand} :
      Choice.ofAnswer line = .ok .regenerate → Proposed t stand →
      Turn (.menu candidate)
        (.ask menuPrompt (some line) :: .show "Regenerating commit message..." :: t) stand
  | invalid {candidate line : String} {e : InvalidChoice} : Choice.ofAnswer line = .error e →
      Turn (.menu candidate)
        (.ask menuPrompt (some line) :: .show "Invalid choice. Please try again." ::
          presentation candidate)
        (.waiting (.menu candidate))
  | replace {candidate line : String} (reply : Except VcsError Unit) :
      Text.isBlankText line = false →
      Turn (.editor candidate)
        [.ask editPrompt (some line), .commit (Text.trim line) reply,
          .show (verdict "Changes committed successfully with your message!"
            "Commit failed. Please check your message and try again." reply)]
        (.ended (.ok (.ofCommit reply)))
  | replaceBlank {candidate line : String} : Text.isBlankText line = true →
      Turn (.editor candidate)
        (.ask editPrompt (some line) :: .show "Empty message, keeping the proposed one." ::
          presentation candidate)
        (.waiting (.menu candidate))

section

variable {σ : Type} (c : Collaborators σ)

/-- A commit is tried once, and one line tells how it came out. -/
theorem toCommit_eq (happened : Trace) (message success failure : String) (s : σ) :
    toCommit c happened message success failure s =
      ⟨happened ++ [.commit message (c.commit message s).1,
          .show (verdict success failure (c.commit message s).1)],
        .ended (.ok (.ofCommit (c.commit message s).1)), (c.commit message s).2⟩ := by
  unfold toCommit
  rcases c.commit message s with ⟨e | _, s'⟩ <;> rfl

theorem turn_accept {candidate line : String} (h : Choice.ofAnswer line = .ok .accept) (s : σ) :
    Turn (.menu candidate) (accept c [.ask menuPrompt (some line)] candidate s).trace
      (accept c [.ask menuPrompt (some line)] candidate s).stand := by
  unfold Session.accept
  cases hblank : Text.isBlankText candidate with
  | true => exact .acceptBlank h hblank
  | false =>
    rw [if_neg Bool.false_ne_true, toCommit_eq]
    exact .accept _ h hblank

theorem turn_replace (candidate line : String) (s : σ) :
    Turn (.editor candidate) (replace c [.ask editPrompt (some line)] candidate line s).trace
      (replace c [.ask editPrompt (some line)] candidate line s).stand := by
  unfold Session.replace
  cases hblank : Text.isBlankText line with
  | true => exact .replaceBlank hblank
  | false =>
    rw [if_neg Bool.false_ne_true, toCommit_eq]
    exact .replace _ hblank

/-- Every answer leads to a turn. -/
theorem turn_answer (waiting : Waiting) (reply : Option String) (s : σ) :
    Turn waiting (answer c waiting reply s).trace (answer c waiting reply s).stand := by
  cases reply with
  | none => exact .unread waiting
  | some line =>
    cases waiting with
    | editor candidate => exact turn_replace c candidate line s
    | menu candidate =>
      cases hchoice : Choice.ofAnswer line with
      | error e =>
        simp only [answer, hchoice]
        exact .invalid hchoice
      | ok choice =>
        simp only [answer, hchoice]
        cases choice with
        | accept => exact turn_accept c hchoice s
        | edit => exact .edit hchoice
        | cancel => exact .cancel hchoice
        | regenerate =>
          obtain ⟨t, htrace, hproposed⟩ := proposed_toProposal c
            [.ask menuPrompt (some line), .show "Regenerating commit message..."] s
          simp only [choose, List.singleton_append, Waiting.prompt]
          rw [htrace]
          exact .regenerate hchoice hproposed

end

/-- After the model has replied there is only the complaint and the candidate. -/
theorem lines_after_reply (reply : Except ModelError String) :
    Lines (complaints reply ++ presentation (candidateOf reply)) :=
  (lines_complaints reply).append (lines_presentation (candidateOf reply))

/-- Making a proposal asks the user nothing and commits nothing. -/
theorem Proposed.lacks {k : Kind} {t : Trace} {stand : Stand} (h : Proposed t stand)
    (hk : k = .ask ∨ k = .commit) : Lacks k t := by
  cases h with
  | failed => rcases hk with rfl | rfl <;> simp [Lacks, Event.kind]
  | made diff reply =>
    have hlines := lines_after_reply reply.result
    have hne : k ≠ .diff ∧ k ≠ .model ∧ k ≠ .line := by rcases hk with rfl | rfl <;> decide
    exact .cons hne.1.symm (.cons hne.2.1.symm (hlines.lacks hne.2.2))

/-- A turn whose answer asks for a new proposal makes one; after any other there are lines, or a
commit that ends the session. -/
theorem Turn.acts {waiting : Waiting} {t : Trace} {stand : Stand} (h : Turn waiting t stand) :
    ∃ reply tail, t = .ask waiting.prompt reply :: tail ∧
      ((Event.ask waiting.prompt reply).regenerates = false ∧
          (Lines tail ∨ ∃ message came line, tail = [.commit message came, .show line] ∧
            stand = .ended (.ok (.ofCommit came))) ∨
        (Event.ask waiting.prompt reply).regenerates = true ∧
          ∃ line made, tail = .show line :: made ∧ Proposed made stand) := by
  cases h with
  | unread => exact ⟨_, _, rfl, .inl ⟨rfl, .inl (by simp [Lines, Event.kind])⟩⟩
  | cancel hchoice =>
    refine ⟨_, _, rfl, .inl ⟨?_, .inl (by simp [Lines, Event.kind])⟩⟩
    simp [Event.regenerates, hchoice]
  | edit hchoice =>
    refine ⟨_, _, rfl, .inl ⟨?_, .inl (by simp [Lines])⟩⟩
    simp [Event.regenerates, hchoice]
  | acceptBlank hchoice _ | invalid hchoice =>
    refine ⟨_, _, rfl, .inl ⟨?_, .inl ((lines_presentation _).cons _)⟩⟩
    simp [Event.regenerates, hchoice]
  | accept _ hchoice _ =>
    refine ⟨_, _, rfl, .inl ⟨?_, .inr ⟨_, _, _, rfl, rfl⟩⟩⟩
    simp [Event.regenerates, hchoice]
  | replaceBlank _ => exact ⟨_, _, rfl, .inl ⟨rfl, .inl ((lines_presentation _).cons _)⟩⟩
  | replace _ _ => exact ⟨_, _, rfl, .inl ⟨rfl, .inr ⟨_, _, _, rfl, rfl⟩⟩⟩
  | regenerate hchoice hproposed =>
    refine ⟨_, _, rfl, .inr ⟨?_, _, _, rfl, hproposed⟩⟩
    simp [Event.regenerates, Waiting.prompt, hchoice]

/-- A turn begins with the question that was waiting, and asks no other. -/
theorem Turn.head {waiting : Waiting} {t : Trace} {stand : Stand} (h : Turn waiting t stand) :
    ∃ reply tail, t = .ask waiting.prompt reply :: tail ∧ Lacks .ask tail := by
  obtain ⟨reply, tail, ht, ⟨-, hlines | ⟨message, came, line, rfl, -⟩⟩ |
    ⟨-, line, made, rfl, hmade⟩⟩ := h.acts
  · exact ⟨reply, tail, ht, hlines.lacks (by decide)⟩
  · exact ⟨reply, _, ht, by simp [Lacks, Event.kind]⟩
  · exact ⟨reply, _, ht, .cons (by simp [Event.kind]) (hmade.lacks (.inl rfl))⟩

end Session

end Stagehand
