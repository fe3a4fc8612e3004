import Stagehand.Proofs.Session.AnswerUse
import Stagehand.Proofs.Session.Freshness
/-!
# Answers that come to nothing can be left out

An answer that is no choice, the acceptance of a blank candidate, and the choice to edit followed by
a blank message all lead from the menu back to it, with the candidate that was on show
(`ComesToNothing`). The world takes no notice of them, so that a session which is at the menu goes
on after them as it would have gone on without them (`ComesToNothing.follow`): there is one more
round in its trace, of questions and lines, and nothing else is different. The main statement is
`run_erases`.
-/

namespace Stagehand.Session

variable {σ : Type} {c : Collaborators σ}

/-- The event asks something of the repository or of the model. -/
def Event.isRequest (e : Event) : Bool :=
  e.isCall || e.kind == .commit

/-- The session reads all the answers and then asks at the menu for one that is not there, with the
candidate on show. -/
structure AtMenu (c : Collaborators σ) (answers : List (Option String)) (s : σ) (shown : Trace)
    (candidate : String) : Prop where
  trace : (run c answers s).trace = shown ++ [.ask menuPrompt none, .show "Commit cancelled."]
  /-- There was a question for every answer before. -/
  asked : shown.asks = answers.length
  presented : ∃ earlier, shown = earlier ++ presentation candidate

/-- The answers at the menu that come to nothing while the candidate is on show. -/
inductive ComesToNothing (candidate : String) : List (Option String) → Prop
  | invalid {line : String} {e : InvalidChoice} : Choice.ofAnswer line = .error e →
      ComesToNothing candidate [some line]
  | blankCandidate {line : String} : Choice.ofAnswer line = .ok .accept →
      Text.isBlankText candidate = true → ComesToNothing candidate [some line]
  | blankMessage {choice line : String} : Choice.ofAnswer choice = .ok .edit →
      Text.isBlankText line = true → ComesToNothing candidate [some choice, some line]

/-- What happens when the answers come to nothing: the questions that they answer, a line, and the
candidate again. -/
def round (answers : List (Option String)) (notice candidate : String) : Trace :=
  List.zipWith .ask [menuPrompt, editPrompt] answers ++ .show notice :: presentation candidate

/-- The longer run is the shorter one with a round of the answers put in after what is shown. -/
structure Erased (shown : Trace) (candidate : String) (answers : List (Option String))
    (longer shorter : Run (List (Option String)) σ) : Prop where
  trace : ∃ notice after, longer.trace = shown ++ round answers notice candidate ++ after ∧
    shorter.trace = shown ++ after
  requests : longer.trace.filter Event.isRequest = shorter.trace.filter Event.isRequest
  errors : longer.trace.errors = shorter.trace.errors
  result : longer.result = shorter.result
  unread : longer.unread = shorter.unread
  world : longer.world = shorter.world

/-! ## At the menu -/

/-- Where an answer leads on, the session goes on from there with what has happened before. -/
theorem follow_of_answer {waiting next : Waiting} {reply : Option String} {t : Trace} {s s' : σ}
    (h : answer c waiting reply s = ⟨t, .waiting next, s'⟩) (happened : Trace)
    (more : List (Option String)) :
    follow c ⟨happened, .waiting waiting, s⟩ (reply :: more) =
      follow c ⟨happened ++ t, .waiting next, s'⟩ more := by
  rw [follow_cons, h, ← follow_after]

/-- A session that asks past its answers stands at a question of its history when it has read
them. -/
theorem exists_history (answers : List (Option String)) {past : Trace} {waiting : Waiting} (s : σ)
    (hpast : History past waiting)
    (hasks : (follow c ⟨past, .waiting waiting, s⟩ answers).trace.asks =
      past.asks + answers.length + 1) :
    ∃ t next s', History t next ∧
      ∀ more, follow c ⟨past, .waiting waiting, s⟩ (answers ++ more) =
        follow c ⟨t, .waiting next, s'⟩ more := by
  induction answers generalizing past waiting s with
  | nil => exact ⟨past, waiting, s, hpast, fun _ => rfl⟩
  | cons reply rest ih =>
    have hturn := turn_answer c waiting reply s
    rcases hstep : answer c waiting reply s with ⟨t, ⟨next⟩ | ⟨result⟩, s'⟩
    · rw [hstep] at hturn
      rw [follow_of_answer hstep] at hasks
      have hone : Trace.asks (past ++ t) = past.asks + 1 := by
        rw [Trace.asks_append, hturn.asks_eq_one]
      obtain ⟨u, last, world, hhistory, hgoes⟩ := ih s' (hpast.turn hturn) (by
        rw [hasks, hone, List.length_cons]
        omega)
      refine ⟨u, last, world, hhistory, ?_⟩
      intro more
      rw [List.cons_append, follow_of_answer hstep, hgoes]
    · -- A session that ends with one of its answers asks nothing after it.
      rw [hstep] at hturn
      rw [follow_cons, hstep, follow_ended] at hasks
      have hone : Trace.asks (past ++ t) = past.asks + 1 := by
        rw [Trace.asks_append, hturn.asks_eq_one]
      exact absurd (hasks.symm.trans hone) (by rw [List.length_cons]; omega)

theorem AtMenu.goes_on {answers : List (Option String)} {s : σ} {shown : Trace}
    {candidate : String} (h : AtMenu c answers s shown candidate) :
    ∃ s', ∀ more, run c (answers ++ more) s =
      follow c ⟨shown, .waiting (.menu candidate), s'⟩ more := by
  have hasks : (run c answers s).trace.asks = answers.length + 1 := by
    rw [h.trace, Trace.asks_append, h.asked]
    rfl
  have hstart := asks_start c s
  obtain ⟨t, htrace, hproposed⟩ := proposed_toProposal c [.show "Generating..."] s
  rcases hstep : start c s with ⟨opening, ⟨waiting⟩ | ⟨result⟩, world⟩
  · rw [hstep] at hstart
    rw [← start, hstep] at htrace hproposed
    obtain rfl : opening = .show "Generating..." :: t := htrace
    rw [run, hstep] at hasks
    obtain ⟨past, next, s', hhistory, hgoes⟩ := exists_history answers world (.opening hproposed)
      (by rw [hasks, hstart, Nat.zero_add])
    have hrun (more : List (Option String)) :
        run c (answers ++ more) s = follow c ⟨past, .waiting next, s'⟩ more := by
      rw [run, hstep, hgoes]
    -- Without another answer the trace ends at the question, and so it is the menu that asks.
    have hend : past ++ [.ask next.prompt none, .show "Commit cancelled."] =
        shown ++ [.ask menuPrompt none, .show "Commit cancelled."] := by
      rw [← h.trace, ← List.append_nil answers, hrun]
      rfl
    obtain ⟨rfl, hquestion⟩ := List.append_inj' hend rfl
    cases next with
    | editor other =>
      have hprompt : editPrompt = menuPrompt := by simpa [Waiting.prompt] using hquestion
      exact absurd hprompt.symm menuPrompt_ne_editPrompt
    | menu other =>
      obtain ⟨earlier, hearlier⟩ := h.presented
      obtain ⟨before, hbefore⟩ := OnShow.presented hhistory.awaits
      obtain rfl : other = candidate := presentation_inj (hbefore.symm.trans hearlier)
      exact ⟨s', hrun⟩
  · rw [run, hstep, follow_ended] at hasks
    rw [hstep] at hstart
    exact absurd (hasks.symm.trans hstart) (by omega)

/-! ## A round -/

/-- Answers that come to nothing lead back to the menu, and the world takes no notice. -/
theorem ComesToNothing.follow {candidate : String} {answers : List (Option String)}
    (h : ComesToNothing candidate answers) :
    ∃ notice, ∀ (happened : Trace) (s : σ) (more : List (Option String)),
      follow c ⟨happened, .waiting (.menu candidate), s⟩ (answers ++ more) =
        Session.follow c
          ⟨happened ++ round answers notice candidate, .waiting (.menu candidate), s⟩ more := by
  cases h with
  | @invalid line e hchoice =>
    refine ⟨"Invalid choice. Please try again.", ?_⟩
    intro happened s more
    apply follow_of_answer
    simp only [answer, hchoice]
    rfl
  | @blankCandidate line hchoice hblank =>
    refine ⟨"The proposed message is empty. Edit or regenerate it first.", ?_⟩
    intro happened s more
    apply follow_of_answer
    simp only [answer, hchoice, choose, Session.accept, hblank, if_true]
    rfl
  | @blankMessage choice line hchoice hblank =>
    refine ⟨"Empty message, keeping the proposed one.", ?_⟩
    intro happened s more
    have hchosen : answer c (.menu candidate) (some choice) s =
        ⟨[.ask menuPrompt (some choice)], .waiting (.editor candidate), s⟩ := by
      simp only [answer, hchoice]
      rfl
    have hwritten : answer c (.editor candidate) (some line) s =
        ⟨.ask editPrompt (some line) :: .show "Empty message, keeping the proposed one." ::
          presentation candidate, .waiting (.menu candidate), s⟩ := by
      simp only [answer, replace, hblank, if_true]
      rfl
    rw [List.cons_append, follow_of_answer hchosen, List.cons_append, follow_of_answer hwritten,
      List.nil_append, List.append_assoc]
    rfl

/-- There are no requests in the trace, and nothing for standard error. -/
def Quiet (t : Trace) : Prop :=
  ∀ e ∈ t, e.isRequest = false ∧ e.errors = ""

theorem quiet_round (answers : List (Option String)) (notice candidate : String) :
    Quiet (round answers notice candidate) := by
  have hasked : Quiet (List.zipWith .ask [menuPrompt, editPrompt] answers) := by
    intro e he
    obtain ⟨i, hi, rfl⟩ := List.getElem_of_mem he
    rw [List.getElem_zipWith]
    exact ⟨rfl, rfl⟩
  have hpresented : Quiet (presentation candidate) := by
    unfold Quiet presentation
    split_ifs <;> simp [Event.isRequest, Event.isCall, Event.kind, Event.errors]
  exact List.forall_mem_append.mpr ⟨hasked, List.forall_mem_cons.mpr ⟨⟨rfl, rfl⟩, hpresented⟩⟩

theorem Quiet.requests {t : Trace} (h : Quiet t) : t.filter Event.isRequest = [] := by
  rw [List.filter_eq_nil_iff]
  intro e he
  rw [(h e he).1]
  exact Bool.false_ne_true

theorem errors_append (t u : Trace) : Trace.errors (t ++ u) = t.errors ++ u.errors := by
  unfold Trace.errors
  rw [List.map_append, String.join_append]

theorem Quiet.errors {t : Trace} (h : Quiet t) : t.errors = "" := by
  unfold Trace.errors
  induction t with
  | nil => rfl
  | cons e t ih =>
    obtain ⟨⟨-, he⟩, hrest⟩ := List.forall_mem_cons.mp h
    rw [List.map_cons, String.join_cons, he, ih hrest, String.empty_append]

/-! ## Sessions -/

/-- At the menu, whatever the collaborators reply and however the session goes on, answers that come
to nothing may be left out. -/
theorem run_erases (c : Collaborators σ) {answers idle : List (Option String)} {s : σ}
    {shown : Trace} {candidate : String} (hmenu : AtMenu c answers s shown candidate)
    (hidle : ComesToNothing candidate idle) (more : List (Option String)) :
    Erased shown candidate idle (run c (answers ++ (idle ++ more)) s)
      (run c (answers ++ more) s) := by
  obtain ⟨s', hgoes⟩ := hmenu.goes_on
  obtain ⟨notice, hback⟩ := hidle.follow (c := c)
  have hquiet := quiet_round idle notice candidate
  -- From the menu on the two runs are one, after different pasts.
  have hfrom (happened : Trace) : follow c ⟨happened, .waiting (.menu candidate), s'⟩ more =
      (follow c ⟨[], .waiting (.menu candidate), s'⟩ more).after happened := by
    rw [← follow_after, List.append_nil]
  rw [hgoes, hgoes, hback, hfrom, hfrom shown]
  constructor
  case trace => exact ⟨notice, _, rfl, rfl⟩
  case requests =>
    simp only [Run.after, List.filter_append]
    rw [hquiet.requests, List.append_nil]
  case errors =>
    simp only [Run.after, errors_append]
    rw [hquiet.errors, String.append_empty]
  case result | unread | world => rfl

/-- Collaborators whose model says something at first and then fails. -/
def fading : Collaborators Nat where
  diff s := (.ok "d", s)
  model.run _ _ s := (⟨if s = 0 then .ok "First" else .error (.timeout 1), ""⟩, s + 1)
  commit _ s := (.ok (), s)

/-- What the session with them has shown when a second proposal was asked for. -/
def shownByFading : Trace := [
  .show "Generating...", .diff (.ok "d"), .model (Message.prompt "d") false ⟨.ok "First", ""⟩,
  .show "", .show "Proposed commit message:", .show "First", .ask menuPrompt (some "again\n"),
  .show "Invalid choice. Please try again.",
  .show "", .show "Proposed commit message:", .show "First", .ask menuPrompt (some " R\n"),
  .show "Regenerating commit message...", .diff (.ok "d"),
  .model (Message.prompt "d") false ⟨.error (.timeout 1), ""⟩,
  .complain "Error: LLM query timed out.",
  .show "", .show "Proposed commit message:", .show ""]

/-- The acceptance of a blank candidate is left out before a message of the user's own. -/
theorem fading_erases :
    AtMenu fading [some "again\n", some " R\n"] 0 shownByFading "" ∧
      ComesToNothing "" [some "A\n"] ∧
      Erased shownByFading "" [some "A\n"]
        (run fading [some "again\n", some " R\n", some "A\n", some "e\n", some "Mine\n"] 0)
        (run fading [some "again\n", some " R\n", some "e\n", some "Mine\n"] 0) := by
  have hmenu : AtMenu fading [some "again\n", some " R\n"] 0 shownByFading "" := by
    refine ⟨?_, rfl, shownByFading.take 16, rfl⟩
    rfl
  have hidle : ComesToNothing "" [some "A\n"] := .blankCandidate rfl rfl
  exact ⟨hmenu, hidle, run_erases fading hmenu hidle [some "e\n", some "Mine\n"]⟩

end Stagehand.Session
