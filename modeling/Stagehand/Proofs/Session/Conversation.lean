import Stagehand.Proofs.Session.Turn
/-!
# The course of a session

A `History` is what can have happened up to a question that waits for its answer, and a `Future`
what can happen from there to the end of the session. Every run is a `Conversation`: a proposal that
failed, or one that leads to a question and is followed by a future of it (`run_conversation`). A
conversation may be cut at any of its questions into a history and a future
(`Conversation.split_at_ask`), and its last turn is all that can end it (`Conversation.last_turn`).
The model is only called about a diff that has just come (`Conversation.split_at_model`). The
candidate of a history is the one it shows last, and the model's latest reply makes it
(`History.awaits`).
-/

namespace Stagehand.Session

/-- What can have happened up to the question where the session waits. -/
inductive History : Trace → Waiting → Prop
  | opening {t : Trace} {waiting : Waiting} : Proposed t (.waiting waiting) →
      History (.show "Generating..." :: t) waiting
  | turn {past t : Trace} {waiting next : Waiting} : History past waiting →
      Turn waiting t (.waiting next) → History (past ++ t) next

/-- What can happen from a question on to the end of the session, and how it ends. -/
inductive Future : Waiting → Trace → Except VcsError Outcome → Prop
  | last {t : Trace} {waiting : Waiting} {result : Except VcsError Outcome} :
      Turn waiting t (.ended result) → Future waiting t result
  | next {t rest : Trace} {waiting next : Waiting} {result : Except VcsError Outcome} :
      Turn waiting t (.waiting next) → Future next rest result → Future waiting (t ++ rest) result

/-- What can happen in a whole session, and how it ends. -/
inductive Conversation : Trace → Except VcsError Outcome → Prop
  | failed (e : VcsError) : Conversation [.show "Generating...", .diff (.error e)] (.error e)
  | opened {past rest : Trace} {waiting : Waiting} {result : Except VcsError Outcome} :
      Proposed past (.waiting waiting) → Future waiting rest result →
      Conversation (.show "Generating..." :: past ++ rest) result

/-! ## Runs -/

section

variable {σ : Type} (c : Collaborators σ)

theorem follow_ended (happened : Trace) (result : Except VcsError Outcome) (s : σ)
    (answers : List (Option String)) :
    follow c ⟨happened, .ended result, s⟩ answers = .ended happened result answers s := by
  cases answers <;> rfl

/-- Where a session waits, it goes on to a future of its question, whatever the answers. -/
theorem future_follow (answers : List (Option String)) (waiting : Waiting) (happened : Trace)
    (s : σ) :
    ∃ t, (follow c ⟨happened, .waiting waiting, s⟩ answers).trace = happened ++ t ∧
      Future waiting t (follow c ⟨happened, .waiting waiting, s⟩ answers).result := by
  induction answers generalizing waiting happened s with
  | nil => exact ⟨_, rfl, .last (.unread waiting)⟩
  | cons reply rest ih =>
    have hturn := turn_answer c waiting reply s
    rw [follow]
    rcases hstep : answer c waiting reply s with ⟨t, ⟨next⟩ | ⟨result⟩, s'⟩
    · rw [hstep] at hturn
      obtain ⟨u, htrace, hfuture⟩ := ih next t s'
      exact ⟨_, congrArg (happened ++ ·) htrace, .next hturn hfuture⟩
    · rw [hstep] at hturn
      rw [follow_ended]
      exact ⟨t, rfl, .last hturn⟩

/-- Every run of a session is a conversation. -/
theorem run_conversation (answers : List (Option String)) (s : σ) :
    Conversation (run c answers s).trace (run c answers s).result := by
  obtain ⟨t, htrace, hproposed⟩ := proposed_toProposal c [.show "Generating..."] s
  unfold run start
  rcases hstep : toProposal c [.show "Generating..."] s with ⟨happened, ⟨waiting⟩ | ⟨result⟩, s'⟩
  · rw [hstep] at htrace hproposed
    obtain ⟨rest, hrest, hfuture⟩ := future_follow c answers waiting happened s'
    rw [hrest]
    obtain rfl : happened = .show "Generating..." :: t := htrace
    exact .opened hproposed hfuture
  · rw [hstep] at htrace hproposed
    obtain rfl : happened = .show "Generating..." :: t := htrace
    rw [follow_ended]
    -- Only a diff that does not come ends a session before its first question.
    cases hproposed with
    | failed e => exact .failed e

end

/-! ## What holds of every part -/

section

variable {P : Trace → Prop} (happend : ∀ {t u : Trace}, P t → P u → P (t ++ u))
  (hturn : ∀ {waiting : Waiting} {t : Trace} {stand : Stand}, Turn waiting t stand → P t)

include happend hturn

theorem Future.of_turns {waiting : Waiting} {t : Trace} {result : Except VcsError Outcome}
    (h : Future waiting t result) : P t := by
  induction h with
  | last hlast => exact hturn hlast
  | next hnext _ ih => exact happend (hturn hnext) ih

/-- What holds of the first line, of every proposal and of every turn, and of two parts together,
holds of a whole conversation. -/
theorem Conversation.of_parts
    (hproposed : ∀ {t : Trace} {stand : Stand}, Proposed t stand → P t)
    (hopening : P [.show "Generating..."]) {t : Trace} {result : Except VcsError Outcome}
    (h : Conversation t result) : P t := by
  cases h with
  | failed e => exact happend hopening (hproposed (.failed e))
  | opened hmade hfuture =>
    exact happend (happend hopening (hproposed hmade)) (hfuture.of_turns happend hturn)

end

/-- A session asks for the staged changes before it calls for anything else. -/
theorem Conversation.asks_first {t : Trace} {result : Except VcsError Outcome}
    (h : Conversation t result) :
    ∃ reply rest, t = .show "Generating..." :: .diff reply :: rest := by
  cases h with
  | failed e => exact ⟨.error e, [], rfl⟩
  | opened hproposed _ =>
    cases hproposed with
    | made diff reply => exact ⟨.ok diff, _, rfl⟩

/-! ## Cutting a conversation -/

theorem menuPrompt_ne_editPrompt : menuPrompt ≠ editPrompt := by decide

/-- A list that is cut at a member which is not in its first part is cut in its second. -/
theorem cut_second {α : Type} {x : α} {first second before after : List α} (hx : x ∉ first)
    (hcut : first ++ second = before ++ x :: after) :
    ∃ b, before = first ++ b ∧ second = b ++ x :: after := by
  rcases List.append_eq_append_iff.mp hcut with ⟨b, hbefore, hsecond⟩ | ⟨b, hfirst, hafter⟩
  · exact ⟨b, hbefore, hsecond⟩
  · cases b with
    | nil => exact ⟨[], by rw [hfirst, List.append_nil, List.append_nil], hafter.symm⟩
    | cons y b =>
      rw [List.cons_append, List.cons.injEq] at hafter
      exact absurd (by rw [hfirst, hafter.1]; simp) hx

/-- A future begins with the question that waits. -/
theorem Future.head {waiting : Waiting} {t : Trace} {result : Except VcsError Outcome}
    (h : Future waiting t result) : ∃ reply rest, t = .ask waiting.prompt reply :: rest := by
  cases h with
  | last hturn =>
    obtain ⟨reply, tail, ht, -⟩ := hturn.head
    exact ⟨reply, tail, ht⟩
  | next hturn _ =>
    obtain ⟨reply, tail, rfl, -⟩ := hturn.head
    exact ⟨reply, _, rfl⟩

/-- A turn that is cut at a question is cut at its first event, or what follows it is cut. -/
theorem Turn.cut_at_ask {waiting : Waiting} {t rest before after : Trace} {stand : Stand}
    {prompt : String} {reply : Option String} (h : Turn waiting t stand)
    (hcut : t ++ rest = before ++ .ask prompt reply :: after) :
    before = [] ∧ prompt = waiting.prompt ∨
      ∃ b, before = t ++ b ∧ rest = b ++ .ask prompt reply :: after := by
  obtain ⟨asked, tail, rfl, htail⟩ := h.head
  cases before with
  | nil =>
    rw [List.cons_append, List.nil_append, List.cons.injEq, Event.ask.injEq] at hcut
    exact .inl ⟨rfl, hcut.1.1.symm⟩
  | cons e before =>
    -- The question of the turn is its first event, so the cut lies past the whole turn.
    have hnot : .ask prompt reply ∉ tail := htail.not_mem rfl
    rw [List.cons_append, List.cons_append, List.cons.injEq] at hcut
    obtain ⟨b, rfl, hrest⟩ := cut_second hnot hcut.2
    exact .inr ⟨b, by rw [hcut.1, List.cons_append], hrest⟩

theorem Future.split_at_ask {waiting : Waiting} {t past before after : Trace} {prompt : String}
    {reply : Option String} {result : Except VcsError Outcome} (h : Future waiting t result)
    (hpast : History past waiting) (hcut : t = before ++ .ask prompt reply :: after) :
    ∃ next, prompt = next.prompt ∧ History (past ++ before) next ∧
      Future next (.ask prompt reply :: after) result := by
  -- Turn by turn: the history takes up each turn that lies before the cut.
  induction h generalizing past before with
  | @last t waiting result hturn =>
    have hwhole : t ++ [] = before ++ .ask prompt reply :: after := by rw [List.append_nil, hcut]
    rcases hturn.cut_at_ask hwhole with ⟨rfl, hprompt⟩ | ⟨b, -, hrest⟩
    · rw [List.append_nil, ← List.nil_append (_ :: after), ← hcut]
      exact ⟨waiting, hprompt, hpast, .last hturn⟩
    · simp at hrest
  | @next t rest waiting next result hturn hfuture ih =>
    rcases hturn.cut_at_ask hcut with ⟨rfl, hprompt⟩ | ⟨b, rfl, hrest⟩
    · rw [List.append_nil, ← List.nil_append (_ :: after), ← hcut]
      exact ⟨waiting, hprompt, hpast, .next hturn hfuture⟩
    · rw [← List.append_assoc]
      exact ih (hpast.turn hturn) hrest

/-- A conversation that is cut at a question is a history up to it and a future from it. -/
theorem Conversation.split_at_ask {t before after : Trace} {prompt : String}
    {reply : Option String} {result : Except VcsError Outcome} (h : Conversation t result)
    (hcut : t = before ++ .ask prompt reply :: after) :
    ∃ waiting, prompt = waiting.prompt ∧ History before waiting ∧
      Future waiting (.ask prompt reply :: after) result := by
  cases h with
  | failed e =>
    have hmem : Event.ask prompt reply ∈ [.show "Generating...", .diff (.error e)] := by
      rw [hcut]
      simp
    simp at hmem
  | @opened past rest waiting _ hproposed hfuture =>
    have hnot : .ask prompt reply ∉ Event.show "Generating..." :: past := by
      intro hmem
      rcases List.mem_cons.mp hmem with hmem | hmem
      · cases hmem
      · exact (hproposed.lacks (.inl rfl)).not_mem rfl hmem
    obtain ⟨b, rfl, hrest⟩ := cut_second hnot hcut
    exact hfuture.split_at_ask (.opening hproposed) hrest

/-! ## Cutting at a call of the model -/

/-- What the model is asked about has come right before. -/
def AboutDiff (before : Trace) (prompt : String) : Prop :=
  ∃ earlier diff, before = earlier ++ [.diff (.ok diff)] ∧ prompt = Message.prompt diff

theorem AboutDiff.behind {before : Trace} {prompt : String} (h : AboutDiff before prompt)
    (t : Trace) : AboutDiff (t ++ before) prompt := by
  obtain ⟨earlier, diff, rfl, hprompt⟩ := h
  exact ⟨t ++ earlier, diff, (List.append_assoc ..).symm, hprompt⟩

/-- A proposal that is cut at a call of the model is made of the diff before it and of the reply, or
what follows it is cut. -/
theorem Proposed.cut_at_model {t rest before after : Trace} {stand : Stand} {prompt : String}
    {echo : Bool} {reply : ModelReply} (h : Proposed t stand)
    (hcut : t ++ rest = before ++ .model prompt echo reply :: after) :
    (AboutDiff before prompt ∧ stand = .waiting (.menu (candidateOf reply.result)) ∧
        after = complaints reply.result ++ presentation (candidateOf reply.result) ++ rest) ∨
      ∃ b, before = t ++ b ∧ rest = b ++ .model prompt echo reply :: after := by
  cases h with
  | failed e =>
    obtain ⟨b, hbefore, hrest⟩ := cut_second (by simp) hcut
    exact .inr ⟨b, hbefore, hrest⟩
  | made diff made =>
    have hnot : .model prompt echo reply ∉
        complaints made.result ++ presentation (candidateOf made.result) :=
      ((lines_after_reply made.result).lacks (k := .model) (by decide)).not_mem rfl
    cases before with
    | nil => cases hcut
    | cons first before =>
      obtain ⟨rfl, hcalled⟩ := List.cons.inj hcut
      cases before with
      | nil =>
        obtain ⟨hevent, rfl⟩ := List.cons.inj hcalled
        obtain ⟨hprompt, -, rfl⟩ := Event.model.inj hevent
        exact .inl ⟨⟨[], diff, rfl, hprompt.symm⟩, rfl, rfl⟩
      | cons called before =>
        obtain ⟨rfl, htail⟩ := List.cons.inj hcalled
        obtain ⟨b, rfl, hrest⟩ := cut_second hnot htail
        exact .inr ⟨b, rfl, hrest⟩

/-- A turn that is cut at a call of the model is cut in the proposal that it makes, or what follows
it is cut. -/
theorem Turn.cut_at_model {waiting : Waiting} {t rest before after : Trace} {stand : Stand}
    {prompt : String} {echo : Bool} {reply : ModelReply} (h : Turn waiting t stand)
    (hcut : t ++ rest = before ++ .model prompt echo reply :: after) :
    (AboutDiff before prompt ∧ stand = .waiting (.menu (candidateOf reply.result)) ∧
        after = complaints reply.result ++ presentation (candidateOf reply.result) ++ rest) ∨
      ∃ b, before = t ++ b ∧ rest = b ++ .model prompt echo reply :: after := by
  obtain ⟨asked, tail, rfl, ⟨-, hlines | ⟨message, came, line, rfl, -⟩⟩ |
    ⟨-, line, made, rfl, hmade⟩⟩ := h.acts
  · have hmodel : Lacks .model (.ask waiting.prompt asked :: tail) :=
      .cons (by simp [Event.kind]) (hlines.lacks (by decide))
    exact .inr (cut_second (hmodel.not_mem rfl) hcut)
  · exact .inr (cut_second (by simp) hcut)
  · have hfirst : Event.model prompt echo reply ∉ [.ask waiting.prompt asked, .show line] := by
      simp
    obtain ⟨b, rfl, hsecond⟩ := cut_second hfirst hcut
    obtain ⟨habout, hreply⟩ | ⟨b, rfl, hrest⟩ := hmade.cut_at_model hsecond
    · exact .inl ⟨habout.behind _, hreply⟩
    · exact .inr ⟨b, rfl, hrest⟩

theorem Future.split_at_model {waiting : Waiting} {t before after : Trace} {prompt : String}
    {echo : Bool} {reply : ModelReply} {result : Except VcsError Outcome}
    (h : Future waiting t result) (hcut : t = before ++ .model prompt echo reply :: after) :
    AboutDiff before prompt ∧
      ∃ rest, after = complaints reply.result ++ presentation (candidateOf reply.result) ++ rest ∧
        Future (.menu (candidateOf reply.result)) rest result := by
  induction h generalizing before with
  | @last t waiting result hturn =>
    have hwhole : t ++ [] = before ++ .model prompt echo reply :: after := by
      rw [List.append_nil, hcut]
    -- A proposal that the model has replied to does not end the session.
    obtain ⟨-, hstand, -⟩ | ⟨b, -, hrest⟩ := hturn.cut_at_model hwhole
    · cases hstand
    · simp at hrest
  | @next t rest waiting next result hturn hfuture ih =>
    obtain ⟨habout, hstand, hafter⟩ | ⟨b, rfl, hrest⟩ := hturn.cut_at_model hcut
    · obtain rfl : next = .menu (candidateOf reply.result) := by simpa using hstand
      exact ⟨habout, rest, hafter, hfuture⟩
    · obtain ⟨habout, hgoesOn⟩ := ih hrest
      exact ⟨habout.behind t, hgoesOn⟩

/-- Every call of the model in a conversation is about a diff that has just come; after it the
candidate that the reply makes is presented, and the conversation goes on at the menu with it. -/
theorem Conversation.split_at_model {t before after : Trace} {prompt : String} {echo : Bool}
    {reply : ModelReply} {result : Except VcsError Outcome} (h : Conversation t result)
    (hcut : t = before ++ .model prompt echo reply :: after) :
    AboutDiff before prompt ∧
      ∃ rest, after = complaints reply.result ++ presentation (candidateOf reply.result) ++ rest ∧
        Future (.menu (candidateOf reply.result)) rest result := by
  cases h with
  | failed e =>
    have hmem : Event.model prompt echo reply ∈ [.show "Generating...", .diff (.error e)] := by
      rw [hcut]
      simp
    simp at hmem
  | @opened past rest waiting _ hproposed hfuture =>
    have hfirst : Event.model prompt echo reply ∉ [.show "Generating..."] := by simp
    obtain ⟨b, rfl, hsecond⟩ := cut_second hfirst hcut
    obtain ⟨habout, hstand, hafter⟩ | ⟨b, rfl, hrest⟩ := hproposed.cut_at_model hsecond
    · obtain rfl : waiting = .menu (candidateOf reply.result) := by simpa using hstand
      exact ⟨habout.behind _, rest, hafter, hfuture⟩
    · obtain ⟨habout, hgoesOn⟩ := hfuture.split_at_model hrest
      exact ⟨(habout.behind past).behind _, hgoesOn⟩

/-! ## The last turn -/

theorem Future.last_turn {waiting : Waiting} {t past : Trace} {result : Except VcsError Outcome}
    (h : Future waiting t result) (hpast : History past waiting) :
    ∃ before next last, t = before ++ last ∧ History (past ++ before) next ∧
      Turn next last (.ended result) := by
  induction h generalizing past with
  | @last t waiting result hturn =>
    exact ⟨[], waiting, t, rfl, by simpa using hpast, hturn⟩
  | next hturn _ ih =>
    obtain ⟨before, next, last, rfl, hhistory, hlast⟩ := ih (hpast.turn hturn)
    exact ⟨_ ++ before, next, last, (List.append_assoc ..).symm, by simpa using hhistory, hlast⟩

/-- A conversation is a proposal that failed, or a history and the turn that ends it. -/
theorem Conversation.last_turn {t : Trace} {result : Except VcsError Outcome}
    (h : Conversation t result) :
    (∃ e, t = [.show "Generating...", .diff (.error e)] ∧ result = .error e) ∨
      ∃ past waiting last, t = past ++ last ∧ History past waiting ∧
        Turn waiting last (.ended result) := by
  cases h with
  | failed e => exact .inl ⟨e, rfl, rfl⟩
  | opened hproposed hfuture =>
    obtain ⟨before, next, last, rfl, hhistory, hlast⟩ := hfuture.last_turn (.opening hproposed)
    exact .inr ⟨_, next, last, (List.append_assoc ..).symm, hhistory, hlast⟩

/-! ## The candidate on show -/

/-- The trace ends by presenting the candidate, which the latest reply of the model makes. -/
def OnShow (t : Trace) (candidate : String) : Prop :=
  ∃ earlier prompt reply between,
    t = earlier ++ .model prompt false reply :: (between ++ presentation candidate) ∧
      Lacks .model between ∧ candidate = candidateOf reply.result

/-- The trace ends where the session waits: the candidate is on show, and for the editor the user
has just asked to edit it. -/
def Awaits (t : Trace) : Waiting → Prop
  | .menu candidate => OnShow t candidate
  | .editor candidate => ∃ shown line, t = shown ++ [.ask menuPrompt (some line)] ∧
      OnShow shown candidate ∧ Choice.ofAnswer line = .ok .edit

theorem OnShow.presented {t : Trace} {candidate : String} (h : OnShow t candidate) :
    ∃ earlier, t = earlier ++ presentation candidate := by
  obtain ⟨earlier, prompt, reply, between, rfl, -, -⟩ := h
  exact ⟨earlier ++ .model prompt false reply :: between, by simp⟩

/-- What a trace presents last is one candidate. -/
theorem presentation_inj {t u : Trace} {candidate other : String}
    (h : t ++ presentation candidate = u ++ presentation other) : candidate = other := by
  -- The lines are compared from the end, where only one of the two may be flagged.
  have hlast {v w : Trace} {a b d a' b' d' : Event} (hends : v ++ [a, b, d] = w ++ [a', b', d']) :
      a = a' ∧ b = b' ∧ d = d' := by
    have hthree := (List.append_inj' hends rfl).2
    simpa using hthree
  unfold presentation at h
  split_ifs at h
  · have hfour := (List.append_inj' h rfl).2
    simpa using hfour
  · rw [List.cons_append, List.append_cons, List.append_nil] at h
    obtain ⟨hfirst, -⟩ := hlast h
    simp at hfirst
  · rw [List.append_nil, List.cons_append, List.append_cons u] at h
    obtain ⟨hfirst, -⟩ := hlast h
    simp at hfirst
  · obtain ⟨-, -, hcandidate⟩ := hlast h
    simpa using hcandidate

/-- A proposal shows the candidate that the model's reply makes. -/
theorem Proposed.onShow {t : Trace} {candidate : String}
    (h : Proposed t (.waiting (.menu candidate))) (before : Trace) :
    OnShow (before ++ t) candidate := by
  cases h with
  | made diff reply =>
    refine ⟨before ++ [.diff (.ok diff)], Message.prompt diff, reply, complaints reply.result, ?_,
      (lines_complaints reply.result).lacks (by decide), rfl⟩
    rw [List.append_assoc, List.singleton_append]

/-- A candidate that is presented again without a call of the model stays on show. -/
theorem OnShow.again {t : Trace} {candidate : String} (h : OnShow t candidate) {between : Trace}
    (hbetween : Lacks .model between) :
    OnShow (t ++ (between ++ presentation candidate)) candidate := by
  obtain ⟨earlier, prompt, reply, first, rfl, hfirst, hcandidate⟩ := h
  have hpresented : Lacks .model (presentation candidate) :=
    (lines_presentation candidate).lacks (by decide)
  refine ⟨earlier, prompt, reply, first ++ (presentation candidate ++ between), ?_,
    hfirst.append (hpresented.append hbetween), hcandidate⟩
  simp

/-- Where a session waits, the candidate it waits with is on show. -/
theorem History.awaits {past : Trace} {waiting : Waiting} (h : History past waiting) :
    Awaits past waiting := by
  induction h with
  | @opening t waiting hproposed =>
    cases waiting with
    | menu candidate => exact hproposed.onShow [.show "Generating..."]
    | editor candidate => cases hproposed
  | @turn past t waiting next _ hturn ih =>
    cases hturn with
    | @acceptBlank candidate line | @invalid candidate line =>
      have hbetween : ∀ notice, Lacks .model [.ask menuPrompt (some line), .show notice] := by
        simp [Lacks, Event.kind]
      exact OnShow.again ih (hbetween _)
    | edit hchoice => exact ⟨past, _, rfl, ih, hchoice⟩
    | @replaceBlank candidate line =>
      obtain ⟨shown, choice, rfl, hshown, -⟩ := ih
      have hbetween : Lacks .model [.ask menuPrompt (some choice), .ask editPrompt (some line),
          .show "Empty message, keeping the proposed one."] := by
        simp [Lacks, Event.kind]
      rw [List.append_assoc]
      exact hshown.again hbetween
    | @regenerate candidate line u stand hchoice hproposed =>
      cases next with
      | menu candidate =>
        have h := hproposed.onShow (past ++
          [.ask menuPrompt (some line), .show "Regenerating commit message..."])
        rwa [List.append_assoc] at h
      | editor candidate => cases hproposed

end Stagehand.Session
