import Stagehand.Proofs.Session.Conversation
/-!
# A session takes its answers one at a time

Every answer that a session reads costs one question, so a list of answers bounds the session: it
asks at most one question more than there are answers. Going through a list it either stops at some
answer and does not look at those after it (`Stops`), or it has read all of them and waits for one
more (`Waits`); `stops_or_waits` is the induction that says so. `run_onLine` reads off it what
becomes of a session when the answers that it did not read are exchanged, and when more are given.
-/

namespace Stagehand.Session

/-- How many questions are asked. -/
def Trace.asks (t : Trace) : Nat :=
  t.countP (·.kind == .ask)

theorem Trace.asks_append (t u : Trace) : Trace.asks (t ++ u) = t.asks + u.asks :=
  List.countP_append

theorem Lacks.asks_eq_zero {t : Trace} (h : Lacks .ask t) : t.asks = 0 :=
  h.countP_eq_zero

/-- A turn asks one question. -/
theorem Turn.asks_eq_one {waiting : Waiting} {t : Trace} {stand : Stand}
    (h : Turn waiting t stand) : t.asks = 1 := by
  obtain ⟨reply, tail, rfl, htail⟩ := h.head
  unfold Trace.asks
  rw [List.countP_cons_of_pos rfl, htail.countP_eq_zero]

variable {σ : Type} (c : Collaborators σ)

theorem asks_start (s : σ) : (start c s).trace.asks = 0 := by
  obtain ⟨t, htrace, hproposed⟩ := proposed_toProposal c [.show "Generating..."] s
  unfold start
  rw [htrace]
  exact Lacks.asks_eq_zero (.cons (by simp [Event.kind]) (hproposed.lacks (.inl rfl)))

/-! ## Going through a list of answers -/

/-- What has happened before a step comes before all that follows it. -/
theorem follow_after (happened : Trace) (step : Step σ) (answers : List (Option String)) :
    follow c { step with trace := happened ++ step.trace } answers =
      (follow c step answers).after happened := by
  rcases step with ⟨t, ⟨waiting⟩ | ⟨result⟩, s⟩
  · cases answers with
    | nil => simp [follow, Run.unanswered, Run.after]
    | cons reply rest => simp [follow, Run.after]
  · rw [follow_ended, follow_ended]
    rfl

/-- The session stops with the last of the answers, and does not look at any after them. -/
def Stops (step : Step σ) (used : List (Option String)) : Prop :=
  ∃ t result s, t.asks = step.trace.asks + used.length ∧
    ∀ others, follow c step (used ++ others) = .ended t result others s

/-- The session reads all the answers, and then waits for one more. -/
def Waits (step : Step σ) (answers : List (Option String)) : Prop :=
  ∃ t waiting s, t.asks = step.trace.asks + answers.length ∧
    ∀ more, follow c step (answers ++ more) = follow c ⟨t, .waiting waiting, s⟩ more

section Cons

variable {c} {happened : Trace} {waiting : Waiting} {s : σ} {reply : Option String}
  {answers : List (Option String)}

/-- The first answer leads to a step, and the others are read from there. -/
theorem follow_cons (answers : List (Option String)) :
    follow c ⟨happened, .waiting waiting, s⟩ (reply :: answers) =
      (follow c (answer c waiting reply s) answers).after happened := by
  rw [follow]

/-- Taking an answer adds a question to those of the steps after it. -/
theorem asks_cons {t : Trace} {n : Nat} (h : t.asks = (answer c waiting reply s).trace.asks + n) :
    Trace.asks (happened ++ t) = happened.asks + (n + 1) := by
  rw [Trace.asks_append, h, (turn_answer c waiting reply s).asks_eq_one]
  omega

theorem Stops.cons (h : Stops c (answer c waiting reply s) answers) :
    Stops c ⟨happened, .waiting waiting, s⟩ (reply :: answers) := by
  obtain ⟨t, result, s', hasks, hstops⟩ := h
  refine ⟨happened ++ t, result, s', asks_cons hasks, ?_⟩
  intro others
  rw [List.cons_append, follow_cons, hstops]
  rfl

theorem Waits.cons (h : Waits c (answer c waiting reply s) answers) :
    Waits c ⟨happened, .waiting waiting, s⟩ (reply :: answers) := by
  obtain ⟨t, next, s', hasks, hwaits⟩ := h
  refine ⟨happened ++ t, next, s', asks_cons hasks, ?_⟩
  intro more
  rw [List.cons_append, follow_cons, hwaits, ← follow_after]

end Cons

/-- A session stops at one of its answers, or it reads all of them and waits. -/
theorem stops_or_waits (answers : List (Option String)) (step : Step σ) :
    (∃ used left, answers = used ++ left ∧ Stops c step used) ∨ Waits c step answers := by
  induction answers generalizing step with
  | nil =>
    rcases step with ⟨t, ⟨waiting⟩ | ⟨result⟩, s⟩
    · exact .inr ⟨t, waiting, s, rfl, fun _ => rfl⟩
    · exact .inl ⟨[], [], rfl, t, result, s, rfl, fun others => follow_ended c t result s others⟩
  | cons reply rest ih =>
    rcases step with ⟨t, ⟨waiting⟩ | ⟨result⟩, s⟩
    · rcases ih (answer c waiting reply s) with ⟨used, left, rfl, hstops⟩ | hwaits
      · exact .inl ⟨reply :: used, left, rfl, hstops.cons⟩
      · exact .inr hwaits.cons
    · exact .inl ⟨[], reply :: rest, rfl, t, result, s, rfl,
        fun others => follow_ended c t result s others⟩

/-! ## Sessions -/

/-- How a session on a list of answers depends on the list. -/
structure OnLine (answers : List (Option String)) (s : σ) : Prop where
  asks_le : (run c answers s).trace.asks ≤ answers.length + 1
  unread : (run c answers s).unread.length = answers.length - (run c answers s).trace.asks
  /-- A session that asks within the list is the same whatever stands where it leaves answers. -/
  within : (run c answers s).trace.asks ≤ answers.length →
    ∃ used, answers = used ++ (run c answers s).unread ∧
      ∀ others, run c (used ++ others) s = { run c answers s with unread := others }
  /-- A session that asks past the end of the list is cancelled. With more answers it goes the same
  way up to the question that was not answered, and asks it. -/
  beyond : answers.length < (run c answers s).trace.asks →
    (run c answers s).result = .ok .cancelled ∧
    ∃ before prompt,
      (run c answers s).trace = before ++ [.ask prompt none, .show "Commit cancelled."] ∧
      ∀ more, ∃ reply after,
        (run c (answers ++ more) s).trace = before ++ .ask prompt reply :: after

theorem OnLine.of_stops {used left : List (Option String)} {s : σ}
    (h : Stops c (start c s) used) : OnLine c (used ++ left) s := by
  obtain ⟨t, result, s', hasks, hstops⟩ := h
  rw [asks_start, Nat.zero_add] at hasks
  have hrun : ∀ others, run c (used ++ others) s = .ended t result others s' := hstops
  constructor
  case asks_le =>
    rw [hrun, List.length_append]
    simp only [Run.ended, hasks]
    omega
  case unread =>
    rw [hrun, List.length_append]
    simp only [Run.ended, hasks]
    omega
  case within =>
    intro _
    refine ⟨used, by rw [hrun]; rfl, ?_⟩
    intro others
    rw [hrun, hrun]
    rfl
  case beyond =>
    rw [hrun, List.length_append]
    simp only [Run.ended, hasks]
    omega

theorem OnLine.of_waits {answers : List (Option String)} {s : σ}
    (h : Waits c (start c s) answers) : OnLine c answers s := by
  obtain ⟨t, waiting, s', hasks, hwaits⟩ := h
  rw [asks_start, Nat.zero_add] at hasks
  have hmore : ∀ more, run c (answers ++ more) s = follow c ⟨t, .waiting waiting, s'⟩ more := hwaits
  have hrun : run c answers s = .unanswered t waiting [] s' := by
    have h := hmore []
    rwa [List.append_nil] at h
  have htrace : (run c answers s).trace =
      t ++ [.ask waiting.prompt none, .show "Commit cancelled."] := by
    rw [hrun]
    rfl
  have hcount : (run c answers s).trace.asks = answers.length + 1 := by
    rw [htrace, Trace.asks_append, hasks]
    rfl
  constructor
  case asks_le => exact Nat.le_of_eq hcount
  case unread =>
    rw [hcount, hrun, Nat.sub_eq_zero_of_le (Nat.le_succ _)]
    rfl
  case within =>
    rw [hcount]
    exact fun h => absurd h (Nat.not_succ_le_self _)
  case beyond =>
    intro _
    refine ⟨by rw [hrun]; rfl, t, waiting.prompt, htrace, ?_⟩
    intro more
    -- Where the session waits, the question comes next whatever the answer to it.
    obtain ⟨u, hu, hfuture⟩ := future_follow c more waiting t s'
    obtain ⟨reply, after, rfl⟩ := hfuture.head
    exact ⟨reply, after, by rw [hmore, hu]⟩

/-- Every session ends, after at most one question more than it has answers, and what it does
depends only on the answers it has read. -/
theorem run_onLine (answers : List (Option String)) (s : σ) : OnLine c answers s := by
  rcases stops_or_waits c answers (start c s) with ⟨used, left, rfl, hstops⟩ | hwaits
  · exact .of_stops c hstops
  · exact .of_waits c hwaits

end Stagehand.Session
