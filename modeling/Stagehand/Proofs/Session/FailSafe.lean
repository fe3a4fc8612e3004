import Mathlib.Tactic.SplitIfs
import Stagehand.Proofs.Session.Conversation
/-!
# A model that fails is a model that says nothing

A failure of the model influences a session only through the empty candidate that it leaves. So a
session goes the same way when any of the failures are replaced by empty outputs (`excusing`): one
step takes the two sessions from one candidate to one candidate (`answer_alike`), and with the same
answers they stay together (`follow_alike`). But no failure goes unseen, for standard error holds
one line for each and nothing else (`Conversation.accounted`). The main statement is `run_failSafe`.
-/

namespace Stagehand

/-- The reply with an empty output in place of a failure. -/
def ModelReply.excused (reply : ModelReply) : ModelReply :=
  match reply.result with
  | .ok _ => reply
  | .error _ => { reply with result := .ok "" }

namespace Session

/-- The collaborators with the calls of the model counted, and with an empty output in place of each
failure at a chosen call. -/
def Collaborators.excusing {σ : Type} (c : Collaborators σ) (chosen : Nat → Bool) :
    Collaborators (σ × Nat) where
  diff world := ((c.diff world.1).1, (c.diff world.1).2, world.2)
  model.run prompt echo world :=
    let (reply, s) := c.model.run prompt echo world.1
    (if chosen world.2 then reply.excused else reply, s, world.2 + 1)
  commit message world := ((c.commit message world.1).1, (c.commit message world.1).2, world.2)

/-- The event with an empty output in place of a failure of the model, unless it is the complaint
about one. -/
def Event.excused? : Event → Option Event
  | .complain _ => none
  | .model prompt echo reply => some (.model prompt echo reply.excused)
  | e => some e

/-- All that happens but the complaints, with an empty output in place of each failure of the
model. -/
def Trace.excused (t : Trace) : Trace :=
  t.filterMap Event.excused?

/-- What came of a call of the model. -/
def Event.reply? : Event → Option (Except ModelError String)
  | .model _ _ reply => some reply.result
  | _ => none

/-- What came of the calls of the model, in order. -/
def Trace.replies (t : Trace) : List (Except ModelError String) :=
  t.filterMap Event.reply?

/-- The message about a reply: one line for a failure, with words of its own for a model that took
too long. -/
def messageAbout : Except ModelError String → String
  | .ok _ => ""
  | .error (.timeout _) => "Error: LLM query timed out.\n"
  | .error e => "Error running LLM: " ++ e.message ++ "\n"

/-- The second run is the first with some failures of the model excused. -/
structure Run.AlikeExcused {α σ : Type} (r : Run α σ) (other : Run α (σ × Nat)) : Prop where
  trace : other.trace.excused = r.trace.excused
  result : other.result = r.result
  unread : other.unread = r.unread
  world : other.world.1 = r.world

/-- What a session on a list of answers keeps to about failures of the model. -/
structure FailSafe {σ : Type} (c : Collaborators σ) (answers : List (Option String)) (s : σ) :
    Prop where
  /-- At whichever calls failures are replaced by empty outputs, the session goes the same way. -/
  alike : ∀ chosen,
    (run c answers s).AlikeExcused (run (c.excusing chosen) answers (s, 0))
  /-- Standard error holds a message for each failure and nothing else. -/
  errors : (run c answers s).trace.errors =
    String.join ((run c answers s).trace.replies.map messageAbout)

/-! ## Replies -/

theorem excused_excused (reply : ModelReply) : reply.excused.excused = reply.excused := by
  rcases reply with ⟨e | output, echoed⟩ <;> rfl

/-- A failure counts as an empty output already. -/
theorem replyText_excused (reply : ModelReply) :
    replyText reply.excused.result = replyText reply.result := by
  have hempty : Text.trim "" = "" := by decide
  rcases reply with ⟨e | output, echoed⟩
  · exact hempty
  · rfl

theorem excused_append (t u : Trace) : Trace.excused (t ++ u) = t.excused ++ u.excused :=
  List.filterMap_append

theorem excused_append_congr {happened happened' t t' : Trace}
    (h : happened'.excused = happened.excused) (ht : t'.excused = t.excused) :
    Trace.excused (happened' ++ t') = Trace.excused (happened ++ t) := by
  rw [excused_append, excused_append, h, ht]

theorem excused_complaints (reply : Except ModelError String) :
    Trace.excused (complaints reply) = [] := by
  cases reply <;> rfl

/-- A call of the model is the same for both sessions, whether its failure is excused or not. -/
theorem excused_call (prompt : String) (reply : ModelReply) (excuse : Bool) :
    Trace.excused (.model prompt false (if excuse then reply.excused else reply) ::
        complaints (if excuse then reply.excused else reply).result) =
      Trace.excused (.model prompt false reply :: complaints reply.result) := by
  unfold Trace.excused
  rw [List.filterMap_cons, List.filterMap_cons]
  simp only [Event.excused?]
  rw [← Trace.excused, excused_complaints, ← Trace.excused, excused_complaints]
  split_ifs
  · rw [excused_excused]
  · rfl

/-! ## Steps -/

/-- The second step is the first with some failures of the model excused: the session stands at the
same place, with the same candidate. -/
structure Step.AlikeExcused {σ : Type} (step : Step σ) (other : Step (σ × Nat)) : Prop where
  trace : other.trace.excused = step.trace.excused
  stand : other.stand = step.stand
  world : other.world.1 = step.world

section

variable {σ : Type} {c : Collaborators σ} {chosen : Nat → Bool} {happened happened' : Trace}

/-- Both sessions do the same next and come to the same place. -/
theorem alike_append (h : happened'.excused = happened.excused) (t : Trace) (stand : Stand)
    (world : σ × Nat) :
    Step.AlikeExcused ⟨happened ++ t, stand, world.1⟩ ⟨happened' ++ t, stand, world⟩ where
  trace := excused_append_congr h rfl
  stand := rfl
  world := rfl

theorem toMenu_alike (h : happened'.excused = happened.excused) (candidate : String)
    (world : σ × Nat) :
    (toMenu happened candidate world.1).AlikeExcused (toMenu happened' candidate world) :=
  alike_append h ..

theorem toCancel_alike (h : happened'.excused = happened.excused) (world : σ × Nat) :
    (toCancel happened world.1).AlikeExcused (toCancel happened' world) :=
  alike_append h ..

theorem toCommit_alike (h : happened'.excused = happened.excused)
    (message success failure : String) (world : σ × Nat) :
    (toCommit c happened message success failure world.1).AlikeExcused
      (toCommit (c.excusing chosen) happened' message success failure world) := by
  rw [toCommit_eq, toCommit_eq]
  exact alike_append h _ _ ((c.excusing chosen).commit message world).2

/-- Both sessions come to the same proposal. -/
theorem toProposal_alike (h : happened'.excused = happened.excused) (world : σ × Nat) :
    (toProposal c happened world.1).AlikeExcused
      (toProposal (c.excusing chosen) happened' world) := by
  have hdiff : (c.excusing chosen).diff world =
      ((c.diff world.1).1, (c.diff world.1).2, world.2) := rfl
  unfold toProposal propose
  rw [hdiff]
  rcases c.diff world.1 with ⟨e | diff, s⟩
  · exact alike_append h _ _ (s, world.2)
  · have htext : replyText (if chosen world.2 then
          (c.model.run (Message.prompt diff) false s).1.excused
        else (c.model.run (Message.prompt diff) false s).1).result =
          replyText (c.model.run (Message.prompt diff) false s).1.result := by
      split_ifs
      · exact replyText_excused _
      · rfl
    have hcall := excused_call (Message.prompt diff) (c.model.run (Message.prompt diff) false s).1
      (chosen world.2)
    simp only [consult, Collaborators.excusing, htext]
    have hconsulted := @excused_append_congr [.diff (.ok diff)] _ _ _ rfl hcall
    exact toMenu_alike (excused_append_congr h hconsulted) _ (_, _)

theorem accept_alike (h : happened'.excused = happened.excused) (candidate : String)
    (world : σ × Nat) :
    (accept c happened candidate world.1).AlikeExcused
      (accept (c.excusing chosen) happened' candidate world) := by
  unfold Session.accept
  split_ifs
  · exact toMenu_alike (excused_append_congr h rfl) candidate world
  · exact toCommit_alike h ..

theorem replace_alike (h : happened'.excused = happened.excused) (candidate line : String)
    (world : σ × Nat) :
    (replace c happened candidate line world.1).AlikeExcused
      (replace (c.excusing chosen) happened' candidate line world) := by
  unfold Session.replace
  split_ifs
  · exact toMenu_alike (excused_append_congr h rfl) candidate world
  · exact toCommit_alike h ..

/-- The same answer takes both sessions to the same place. -/
theorem answer_alike (waiting : Waiting) (reply : Option String) (world : σ × Nat) :
    (answer c waiting reply world.1).AlikeExcused
      (answer (c.excusing chosen) waiting reply world) := by
  rcases reply with _ | line
  · exact toCancel_alike rfl world
  · cases waiting with
    | editor candidate => exact replace_alike rfl candidate line world
    | menu candidate =>
      simp only [answer]
      rcases Choice.ofAnswer line with e | choice
      · exact toMenu_alike rfl candidate world
      · cases choice with
        | accept => exact accept_alike rfl candidate world
        | edit => exact ⟨rfl, rfl, rfl⟩
        | regenerate => exact toProposal_alike rfl world
        | cancel => exact toCancel_alike rfl world

/-! ## Runs -/

theorem Run.AlikeExcused.after {α : Type} {r : Run α σ} {other : Run α (σ × Nat)}
    (hr : r.AlikeExcused other) (h : happened'.excused = happened.excused) :
    (r.after happened).AlikeExcused (other.after happened') where
  trace := excused_append_congr h hr.trace
  result := hr.result
  unread := hr.unread
  world := hr.world

/-- From the same place both sessions go the same way with the same answers. -/
theorem follow_alike {step : Step σ} {other : Step (σ × Nat)} (h : step.AlikeExcused other)
    (answers : List (Option String)) :
    (follow c step answers).AlikeExcused (follow (c.excusing chosen) other answers) := by
  induction answers generalizing step other with
  | nil =>
    rcases step with ⟨t, stand, s⟩
    rcases other with ⟨t', stand', world⟩
    obtain ⟨htrace, rfl, rfl⟩ : t'.excused = t.excused ∧ stand' = stand ∧ world.1 = s :=
      ⟨h.trace, h.stand, h.world⟩
    cases stand' with
    | waiting waiting =>
      exact ⟨excused_append_congr htrace rfl, rfl, rfl, rfl⟩
    | ended result => exact ⟨htrace, rfl, rfl, rfl⟩
  | cons reply rest ih =>
    rcases step with ⟨t, stand, s⟩
    rcases other with ⟨t', stand', world⟩
    obtain ⟨htrace, rfl, rfl⟩ : t'.excused = t.excused ∧ stand' = stand ∧ world.1 = s :=
      ⟨h.trace, h.stand, h.world⟩
    cases stand' with
    | waiting waiting => exact (ih (answer_alike waiting reply world)).after htrace
    | ended result =>
      rw [follow_ended, follow_ended]
      exact ⟨htrace, rfl, rfl, rfl⟩

end

/-! ## What standard error holds -/

/-- Standard error holds a message for each failure of the model and nothing else. -/
def Accounted (t : Trace) : Prop :=
  t.errors = String.join (t.replies.map messageAbout)

theorem Accounted.append {t u : Trace} (ht : Accounted t) (hu : Accounted u) :
    Accounted (t ++ u) := by
  unfold Accounted Trace.errors Trace.replies at *
  rw [List.map_append, String.join_append, ht, hu, List.filterMap_append, List.map_append,
    String.join_append]

/-- Where no model is called and nothing complained about there is nothing to account for. -/
theorem accounted_of_quiet {t : Trace} (h : ∀ e ∈ t, e.errors = "" ∧ e.reply? = none) :
    Accounted t := by
  induction t with
  | nil => rfl
  | cons e t ih =>
    obtain ⟨⟨herrors, hreply⟩, hrest⟩ := List.forall_mem_cons.mp h
    have hone : Accounted [e] := by
      simp [Accounted, Trace.errors, Trace.replies, herrors, hreply]
    exact hone.append (ih hrest)

theorem accounted_presentation (candidate : String) : Accounted (presentation candidate) := by
  apply accounted_of_quiet
  unfold presentation
  split_ifs <;> simp [Event.errors, Event.reply?]

theorem errors_complaints (reply : Except ModelError String) :
    Trace.errors (complaints reply) = messageAbout reply := by
  rcases reply with e | output
  · have hline : complaint e ++ "\n" = messageAbout (.error e) := by cases e <;> rfl
    simp [complaints, Trace.errors, Event.errors, hline]
  · rfl

theorem replies_complaints (reply : Except ModelError String) :
    Trace.replies (complaints reply) = [] := by
  cases reply <;> rfl

/-- A call of the model is followed by the message about its reply. -/
theorem accounted_call (prompt : String) (reply : ModelReply) :
    Accounted (.model prompt false reply :: complaints reply.result) := by
  have herrors : Trace.errors (.model prompt false reply :: complaints reply.result) =
      "" ++ Trace.errors (complaints reply.result) := String.join_cons
  have hreplies : Trace.replies (.model prompt false reply :: complaints reply.result) =
      reply.result :: Trace.replies (complaints reply.result) := rfl
  unfold Accounted
  rw [herrors, hreplies, errors_complaints, replies_complaints]
  simp

theorem Proposed.accounted {t : Trace} {stand : Stand} (h : Proposed t stand) : Accounted t := by
  cases h with
  | failed e => rfl
  | made diff reply =>
    have hdiff : Accounted [.diff (.ok diff)] := rfl
    exact hdiff.append ((accounted_call _ reply).append (accounted_presentation _))

theorem Turn.accounted {waiting : Waiting} {t : Trace} {stand : Stand} (h : Turn waiting t stand) :
    Accounted t := by
  have hasked (prompt line notice : String) :
      Accounted [.ask prompt (some line), .show notice] := rfl
  cases h with
  | unread | cancel _ | accept _ _ _ | edit _ | replace _ _ => rfl
  | acceptBlank _ _ | invalid _ | replaceBlank _ =>
    exact (hasked _ _ _).append (accounted_presentation _)
  | regenerate _ hproposed => exact (hasked _ _ _).append hproposed.accounted

theorem Conversation.accounted {t : Trace} {result : Except VcsError Outcome}
    (h : Conversation t result) : Accounted t := by
  have hopening : Accounted [.show "Generating..."] := rfl
  exact h.of_parts Accounted.append Turn.accounted Proposed.accounted hopening

/-! ## Sessions -/

/-- In every session failures of the model are as good as empty outputs, and none goes unseen. -/
theorem run_failSafe {σ : Type} (c : Collaborators σ) (answers : List (Option String)) (s : σ) :
    FailSafe c answers s where
  alike _ := follow_alike (toProposal_alike rfl (s, 0)) answers
  errors := (run_conversation c answers s).accounted

end Session

end Stagehand
