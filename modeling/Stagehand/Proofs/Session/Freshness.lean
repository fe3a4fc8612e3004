import Stagehand.Proofs.Session.Conversation
/-!
# A session shows what the model said last

A session asks for the staged changes once at its start and once for each answer that wants a new
proposal, and puts each diff to the model at once (`Consultations`, `Consulted`). At the menu the
candidate of the model's latest reply is on show (`Proposes`), and an answer that comes to nothing
leaves it there (`Reproposes`). The calls of one turn are those of its proposal (`Turn.calls`), and
`run_fresh` is the result for a whole run.
-/

namespace Stagehand.Session

/-- The event asks for the staged changes or calls the model. -/
def Event.isCall (e : Event) : Bool :=
  e.kind == .diff || e.kind == .model

/-- Requests for the staged changes and calls of the model take turns: each diff that comes is put
to the model, without echo, and one that does not come is the last. -/
inductive Consultations : Trace → Prop
  | none : Consultations []
  | failed (e : VcsError) : Consultations [.diff (.error e)]
  | round (diff : String) (reply : ModelReply) {rest : Trace} : Consultations rest →
      Consultations (.diff (.ok diff) :: .model (Message.prompt diff) false reply :: rest)

/-- Where a diff comes, the model is called about it at once. -/
def Consulted (t : Trace) : Prop :=
  ∀ before diff after, t = before ++ .diff (.ok diff) :: after →
    ∃ reply rest, after = .model (Message.prompt diff) false reply :: rest

/-- The trace ends by showing the candidate that the latest reply of the model makes, and says
whether it is breaking. -/
def Proposes (t : Trace) (candidate : String) : Prop :=
  ∃ earlier prompt reply between flag,
    t = earlier ++ .model prompt false reply :: between ++
      [.show "", .show "Proposed commit message:", .show candidate] ++ flag ∧
    Lacks .model between ∧
    (candidate = match reply.result with
      | .ok output => Message.clean (Text.trim output)
      | .error _ => "") ∧
    (Message.isBreaking candidate = true → flag = [.show "(flagged as a breaking change)"]) ∧
    (Message.isBreaking candidate = false → flag = [])

/-- After one line the same candidate is presented at the menu again. -/
def Reproposes (candidate : String) (t : Trace) : Prop :=
  ∃ notice next rest, t = .show notice :: (presentation candidate ++ .ask menuPrompt next :: rest)

/-- What a whole session keeps to about its candidates. -/
structure Fresh (t : Trace) : Prop where
  alternate : Consultations (t.filter Event.isCall)
  consulted : Consulted t
  /-- There is one request for the staged changes, and one more for each new proposal. -/
  requests : t.countP (·.kind == .diff) = 1 + t.countP Event.regenerates
  proposed : ∀ before reply after, t = before ++ .ask menuPrompt reply :: after →
    ∃ candidate, Proposes before candidate
  /-- An answer that is no choice leaves the candidate as it is. -/
  invalid : ∀ before line e after, t = before ++ .ask menuPrompt (some line) :: after →
    Choice.ofAnswer line = .error e →
    ∃ candidate, Proposes before candidate ∧ Reproposes candidate after
  /-- Accepting a blank candidate leaves it as it is. -/
  blankCandidate : ∀ before line after, t = before ++ .ask menuPrompt (some line) :: after →
    Choice.ofAnswer line = .ok .accept →
    ∃ candidate, Proposes before candidate ∧
      (Text.isBlankText candidate = true → Reproposes candidate after)
  /-- Writing a blank message leaves the candidate as it is. -/
  blankMessage : ∀ before line after, t = before ++ .ask editPrompt (some line) :: after →
    Text.isBlankText line = true →
    ∃ shown choice candidate, before = shown ++ [.ask menuPrompt (some choice)] ∧
      Proposes shown candidate ∧ Reproposes candidate after

/-! ## How often the staged changes are asked for -/

/-- What does not ask the user anything does not hold a wish for a new proposal. -/
theorem Lacks.countP_regenerates {t : Trace} (h : Lacks .ask t) :
    t.countP Event.regenerates = 0 := by
  rw [List.countP_eq_zero]
  intro e he hwish
  cases e with
  | ask => exact h _ he rfl
  | _ => cases hwish

theorem Proposed.requests {t : Trace} {stand : Stand} (h : Proposed t stand) :
    t.countP (·.kind == .diff) = 1 := by
  cases h with
  | failed e => rfl
  | made diff reply =>
    have hlater : Lacks .diff
        (complaints reply.result ++ presentation (candidateOf reply.result)) :=
      (lines_after_reply reply.result).lacks (by decide)
    rw [List.countP_cons_of_pos rfl, List.countP_cons_of_neg (by simp [Event.kind]),
      hlater.countP_eq_zero]

/-- A turn asks for the staged changes as often as its answer wants a new proposal. -/
theorem Turn.requests {waiting : Waiting} {t : Trace} {stand : Stand} (h : Turn waiting t stand) :
    t.countP (·.kind == .diff) = t.countP Event.regenerates := by
  obtain ⟨reply, tail, rfl, ⟨hwish, hlines | ⟨message, came, line, rfl, -⟩⟩ |
    ⟨hwish, line, made, rfl, hmade⟩⟩ := h.acts
  · have hdiff : Lacks .diff tail := hlines.lacks (by decide)
    have hask : Lacks .ask tail := hlines.lacks (by decide)
    rw [List.countP_cons_of_neg (by simp [Event.kind]),
      List.countP_cons_of_neg (Bool.eq_false_iff.mp hwish), hdiff.countP_eq_zero,
      hask.countP_regenerates]
  · rw [List.countP_cons_of_neg (by simp [Event.kind]),
      List.countP_cons_of_neg (Bool.eq_false_iff.mp hwish)]
    rfl
  · have hask : Lacks .ask (.show line :: made) :=
      .cons (by simp [Event.kind]) (hmade.lacks (.inl rfl))
    rw [List.countP_cons_of_neg (by simp [Event.kind]), List.countP_cons_of_pos hwish,
      hask.countP_regenerates, List.countP_cons_of_neg (by simp [Event.kind]), hmade.requests]

theorem Future.requests {waiting : Waiting} {t : Trace} {result : Except VcsError Outcome}
    (h : Future waiting t result) : t.countP (·.kind == .diff) = t.countP Event.regenerates := by
  induction h with
  | last hturn => exact hturn.requests
  | next hturn _ ih => rw [List.countP_append, List.countP_append, hturn.requests, ih]

theorem Conversation.requests {t : Trace} {result : Except VcsError Outcome}
    (h : Conversation t result) :
    t.countP (·.kind == .diff) = 1 + t.countP Event.regenerates := by
  cases h with
  | failed e => rfl
  | @opened past rest waiting _ hproposed hfuture =>
    have hopening : Lacks .ask (.show "Generating..." :: past) :=
      .cons (by simp [Event.kind]) (hproposed.lacks (.inl rfl))
    rw [List.countP_append, List.countP_append, hopening.countP_regenerates, Nat.zero_add,
      List.countP_cons_of_neg (by simp [Event.kind]), hproposed.requests, hfuture.requests]

/-! ## The order of the calls -/

theorem Lines.filter_isCall {t : Trace} (h : Lines t) : t.filter Event.isCall = [] := by
  rw [List.filter_eq_nil_iff]
  intro e he
  simp [Event.isCall, h e he]

theorem Proposed.calls {t : Trace} {stand : Stand} (h : Proposed t stand) :
    (∃ e, t.filter Event.isCall = [.diff (.error e)] ∧ stand = .ended (.error e)) ∨
      ∃ diff reply, t.filter Event.isCall =
        [.diff (.ok diff), .model (Message.prompt diff) false reply] := by
  cases h with
  | failed e => exact .inl ⟨e, rfl, rfl⟩
  | made diff reply =>
    refine .inr ⟨diff, reply, ?_⟩
    rw [List.filter_cons_of_pos rfl, List.filter_cons_of_pos rfl,
      (lines_after_reply reply.result).filter_isCall]

/-- The calls of a turn are those of the proposal it makes, if it makes one. -/
theorem Turn.calls {waiting : Waiting} {t : Trace} {stand : Stand} (h : Turn waiting t stand) :
    t.filter Event.isCall = [] ∨
      ∃ made, Proposed made stand ∧ t.filter Event.isCall = made.filter Event.isCall := by
  obtain ⟨reply, tail, rfl, ⟨-, hlines | ⟨message, came, line, rfl, -⟩⟩ |
    ⟨-, line, made, rfl, hmade⟩⟩ := h.acts
  · exact .inl hlines.filter_isCall
  · exact .inl rfl
  · exact .inr ⟨made, hmade, rfl⟩

/-- A proposal that is made begins the consultations that follow it. -/
theorem Proposed.consultations {t calls : Trace} {waiting : Waiting}
    (h : Proposed t (.waiting waiting)) (hcalls : Consultations calls) :
    Consultations (t.filter Event.isCall ++ calls) := by
  obtain ⟨e, -, hend⟩ | ⟨diff, reply, hmade⟩ := h.calls
  · cases hend
  · rw [hmade]
    exact .round diff reply hcalls

theorem Future.consultations {waiting : Waiting} {t : Trace} {result : Except VcsError Outcome}
    (h : Future waiting t result) : Consultations (t.filter Event.isCall) := by
  induction h with
  | last hturn =>
    rcases hturn.calls with hcalls | ⟨made, hmade, hcalls⟩
    · rw [hcalls]
      exact .none
    · rw [hcalls]
      obtain ⟨e, hfailed, -⟩ | ⟨diff, reply, hmade⟩ := hmade.calls
      · rw [hfailed]
        exact .failed e
      · rw [hmade]
        exact .round diff reply .none
  | next hturn _ ih =>
    rw [List.filter_append]
    rcases hturn.calls with hcalls | ⟨made, hmade, hcalls⟩
    · rw [hcalls]
      exact ih
    · rw [hcalls]
      exact hmade.consultations ih

theorem Conversation.consultations {t : Trace} {result : Except VcsError Outcome}
    (h : Conversation t result) : Consultations (t.filter Event.isCall) := by
  cases h with
  | failed e => exact .failed e
  | opened hproposed hfuture =>
    rw [List.cons_append, List.filter_cons_of_neg (by simp [Event.isCall, Event.kind]),
      List.filter_append]
    exact hproposed.consultations hfuture.consultations

/-! ## Each diff goes to the model at once -/

theorem Lacks.consulted {t : Trace} (h : Lacks .diff t) : Consulted t := by
  rintro before diff after rfl
  exact absurd rfl (h (.diff (.ok diff)) (by simp))

theorem Consulted.append {t u : Trace} (ht : Consulted t) (hu : Consulted u) :
    Consulted (t ++ u) := by
  intro before diff after hcut
  rcases List.append_eq_append_iff.mp hcut with ⟨b, -, hsecond⟩ | ⟨b, hfirst, hafter⟩
  · exact hu b diff after hsecond
  · cases b with
    -- The cut falls between the two parts.
    | nil => exact hu [] diff after hafter.symm
    | cons e b =>
      rw [List.cons_append, List.cons.injEq] at hafter
      obtain ⟨rfl, rfl⟩ := hafter
      obtain ⟨reply, rest, rfl⟩ := ht before diff b hfirst
      exact ⟨reply, rest ++ u, rfl⟩

theorem Proposed.consulted {t : Trace} {stand : Stand} (h : Proposed t stand) : Consulted t := by
  cases h with
  | failed e =>
    intro before diff after hcut
    have hmem : Event.diff (.ok diff) ∈ [.diff (.error e)] := by rw [hcut]; simp
    simp at hmem
  | made diff reply =>
    have hlater : Lacks .diff (.model (Message.prompt diff) false reply ::
        (complaints reply.result ++ presentation (candidateOf reply.result))) :=
      .cons (by simp [Event.kind]) ((lines_after_reply reply.result).lacks (by decide))
    intro before d after hcut
    cases before with
    | nil =>
      rw [List.nil_append, List.cons.injEq] at hcut
      obtain ⟨hdiff, rfl⟩ := hcut
      obtain rfl : diff = d := by simpa using hdiff
      exact ⟨reply, _, rfl⟩
    | cons e before =>
      rw [List.cons_append, List.cons.injEq] at hcut
      exact hlater.consulted before d after hcut.2

theorem Turn.consulted {waiting : Waiting} {t : Trace} {stand : Stand} (h : Turn waiting t stand) :
    Consulted t := by
  obtain ⟨reply, tail, rfl, ⟨-, hlines | ⟨message, came, line, rfl, -⟩⟩ |
    ⟨-, line, made, rfl, hmade⟩⟩ := h.acts
  · have hdiff : Lacks .diff tail := hlines.lacks (by decide)
    exact (hdiff.cons (by simp [Event.kind])).consulted
  · exact Lacks.consulted (by simp [Lacks, Event.kind])
  · have hasked : Lacks .diff [.ask waiting.prompt reply, .show line] := by
      simp [Lacks, Event.kind]
    exact hasked.consulted.append hmade.consulted

theorem Conversation.consulted {t : Trace} {result : Except VcsError Outcome}
    (h : Conversation t result) : Consulted t := by
  have hopening : Lacks .diff [.show "Generating..."] := by simp [Lacks, Event.kind]
  exact h.of_parts Consulted.append Turn.consulted Proposed.consulted hopening.consulted

/-! ## The candidate -/

theorem OnShow.proposes {t : Trace} {candidate : String} (h : OnShow t candidate) :
    Proposes t candidate := by
  obtain ⟨earlier, prompt, reply, between, rfl, hbetween, hcandidate⟩ := h
  refine ⟨earlier, prompt, reply, between,
    if Message.isBreaking candidate then [.show "(flagged as a breaking change)"] else [], ?_,
    hbetween, hcandidate, fun hbreaking => if_pos hbreaking, fun hbreaking => ?_⟩
  · simp [presentation]
  · rw [hbreaking, if_neg Bool.false_ne_true]

/-- The answers that come to nothing where the session waits with the candidate. -/
inductive Keeps (candidate : String) : Waiting → String → Prop
  | invalid {line : String} {e : InvalidChoice} : Choice.ofAnswer line = .error e →
      Keeps candidate (.menu candidate) line
  | blankCandidate {line : String} : Choice.ofAnswer line = .ok .accept →
      Text.isBlankText candidate = true → Keeps candidate (.menu candidate) line
  | blankMessage {line : String} : Text.isBlankText line = true →
      Keeps candidate (.editor candidate) line

/-- After an answer that comes to nothing the candidate is presented at the menu again. -/
theorem Turn.kept {candidate line : String} {waiting : Waiting} {tail : Trace} {stand : Stand}
    (hkeeps : Keeps candidate waiting line)
    (h : Turn waiting (.ask waiting.prompt (some line) :: tail) stand) :
    stand = .waiting (.menu candidate) ∧
      ∃ notice, tail = .show notice :: presentation candidate := by
  cases hkeeps with
  | invalid hkept =>
    cases h with
    | invalid => exact ⟨rfl, _, rfl⟩
    | cancel hchoice | edit hchoice | regenerate hchoice _ | accept _ hchoice _
    | acceptBlank hchoice _ =>
      rw [hkept] at hchoice
      cases hchoice
  | blankCandidate hkept hblank =>
    cases h with
    | acceptBlank => exact ⟨rfl, _, rfl⟩
    | accept _ _ hfilled =>
      rw [hblank] at hfilled
      cases hfilled
    | cancel hchoice | edit hchoice | regenerate hchoice _ | invalid hchoice =>
      rw [hkept] at hchoice
      cases hchoice
  | blankMessage hblank =>
    cases h with
    | replaceBlank => exact ⟨rfl, _, rfl⟩
    | replace _ hfilled =>
      rw [hblank] at hfilled
      cases hfilled

/-- A turn that leads on is followed by the question it leads to. -/
theorem Future.reproposes {candidate line : String} {waiting : Waiting} {after : Trace}
    {result : Except VcsError Outcome} (hkeeps : Keeps candidate waiting line)
    (h : Future waiting (.ask waiting.prompt (some line) :: after) result) :
    Reproposes candidate after := by
  generalize ht : Event.ask waiting.prompt (some line) :: after = t at h
  cases h with
  | last hturn =>
    -- An answer that comes to nothing does not end the session.
    rw [← ht] at hturn
    cases (hturn.kept hkeeps).1
  | @next u rest _ next _ hturn hfuture =>
    obtain ⟨reply, tail, rfl, -⟩ := hturn.head
    rw [List.cons_append, List.cons.injEq, Event.ask.injEq] at ht
    obtain ⟨⟨-, rfl⟩, rfl⟩ := ht
    obtain ⟨hnext, notice, rfl⟩ := hturn.kept hkeeps
    obtain rfl : next = .menu candidate := by simpa using hnext
    obtain ⟨reply, later, rfl⟩ := hfuture.head
    exact ⟨notice, reply, later, rfl⟩

/-- A question of the menu is asked where the session waits at the menu, its candidate on show. -/
theorem Conversation.at_menu {t before after : Trace} {reply : Option String}
    {result : Except VcsError Outcome} (h : Conversation t result)
    (hcut : t = before ++ .ask menuPrompt reply :: after) :
    ∃ candidate, Proposes before candidate ∧
      Future (.menu candidate) (.ask menuPrompt reply :: after) result := by
  obtain ⟨waiting, hprompt, hpast, hfuture⟩ := h.split_at_ask hcut
  cases waiting with
  | menu candidate => exact ⟨candidate, OnShow.proposes hpast.awaits, hfuture⟩
  | editor candidate => exact absurd hprompt menuPrompt_ne_editPrompt

/-- A question of the editor is asked right after the choice to edit the candidate on show. -/
theorem Conversation.at_editor {t before after : Trace} {reply : Option String}
    {result : Except VcsError Outcome} (h : Conversation t result)
    (hcut : t = before ++ .ask editPrompt reply :: after) :
    ∃ shown choice candidate, before = shown ++ [.ask menuPrompt (some choice)] ∧
      Proposes shown candidate ∧
        Future (.editor candidate) (.ask editPrompt reply :: after) result := by
  obtain ⟨waiting, hprompt, hpast, hfuture⟩ := h.split_at_ask hcut
  cases waiting with
  | menu candidate => exact absurd hprompt.symm menuPrompt_ne_editPrompt
  | editor candidate =>
    obtain ⟨shown, choice, rfl, hshown, -⟩ := hpast.awaits
    exact ⟨shown, choice, candidate, rfl, hshown.proposes, hfuture⟩

/-! ## Sessions -/

theorem Conversation.fresh {t : Trace} {result : Except VcsError Outcome}
    (h : Conversation t result) : Fresh t where
  alternate := h.consultations
  consulted := h.consulted
  requests := h.requests
  proposed before reply after hcut := by
    obtain ⟨candidate, hproposes, -⟩ := h.at_menu hcut
    exact ⟨candidate, hproposes⟩
  invalid before line e after hcut hchoice := by
    obtain ⟨candidate, hproposes, hfuture⟩ := h.at_menu hcut
    exact ⟨candidate, hproposes, hfuture.reproposes (.invalid hchoice)⟩
  blankCandidate before line after hcut hchoice := by
    obtain ⟨candidate, hproposes, hfuture⟩ := h.at_menu hcut
    exact ⟨candidate, hproposes, fun hblank => hfuture.reproposes (.blankCandidate hchoice hblank)⟩
  blankMessage before line after hcut hblank := by
    obtain ⟨shown, choice, candidate, hbefore, hproposes, hfuture⟩ := h.at_editor hcut
    exact ⟨shown, choice, candidate, hbefore, hproposes, hfuture.reproposes (.blankMessage hblank)⟩

/-- Every run of a session shows what the model said last, whatever is answered to it. -/
theorem run_fresh {σ : Type} (c : Collaborators σ) (answers : List (Option String)) (s : σ) :
    Fresh (run c answers s).trace :=
  (run_conversation c answers s).fresh

end Stagehand.Session
