import Stagehand.Proofs.Session.Conversation
/-!
# The trace is what was done

`Performs` follows a trace through the world: each call in it is made of the collaborators where the
calls before it have left the world, with the reply that they gave, and nothing else touches the
world. Every part of a session performs its trace, so a whole run does (`run_performs`). What the
calls leave behind in a world is then found by induction on `Performs`.
-/

namespace Stagehand.Session

variable {σ : Type}

/-- From the first world the collaborators take the calls of the trace, one after another, and so
lead to the second world. -/
inductive Performs (c : Collaborators σ) : σ → Trace → σ → Prop
  | done (s : σ) : Performs c s [] s
  /-- A line or a question leaves the world alone. -/
  | aside {e : Event} {t : Trace} {s s' : σ} : e.kind = .line ∨ e.kind = .ask →
      Performs c s t s' → Performs c s (e :: t) s'
  | diff {t : Trace} {s s' : σ} : Performs c (c.diff s).2 t s' →
      Performs c s (.diff (c.diff s).1 :: t) s'
  | model {prompt : String} {t : Trace} {s s' : σ} :
      Performs c (c.model.run prompt false s).2 t s' →
      Performs c s (.model prompt false (c.model.run prompt false s).1 :: t) s'
  | commit {message : String} {t : Trace} {s s' : σ} : Performs c (c.commit message s).2 t s' →
      Performs c s (.commit message (c.commit message s).1 :: t) s'

variable {c : Collaborators σ} {s s' s'' : σ} {happened t u : Trace}

theorem Performs.append (ht : Performs c s t s') (hu : Performs c s' u s'') :
    Performs c s (t ++ u) s'' := by
  induction ht with
  | done => exact hu
  | aside he _ ih => exact .aside he (ih hu)
  | diff _ ih => exact .diff (ih hu)
  | model _ ih => exact .model (ih hu)
  | commit _ ih => exact .commit (ih hu)

/-- What is performed in two parts leaves a world between them. -/
theorem Performs.of_append (h : Performs c s (t ++ u) s'') :
    ∃ mid, Performs c s t mid ∧ Performs c mid u s'' := by
  induction t generalizing s with
  | nil => exact ⟨s, .done s, h⟩
  | cons e t ih =>
    cases h with
    | aside he hrest =>
      obtain ⟨mid, ht, hu⟩ := ih hrest
      exact ⟨mid, .aside he ht, hu⟩
    | diff hrest =>
      obtain ⟨mid, ht, hu⟩ := ih hrest
      exact ⟨mid, .diff ht, hu⟩
    | model hrest =>
      obtain ⟨mid, ht, hu⟩ := ih hrest
      exact ⟨mid, .model ht, hu⟩
    | commit hrest =>
      obtain ⟨mid, ht, hu⟩ := ih hrest
      exact ⟨mid, .commit ht, hu⟩

theorem Performs.diff_eq {reply : Except VcsError String} (h : Performs c s [.diff reply] s') :
    c.diff s = (reply, s') := by
  cases h with
  | aside he => simp [Event.kind] at he
  | diff hrest =>
    cases hrest
    rfl

theorem Performs.show (text : String) : Performs c s [.show text] s :=
  .aside (.inl rfl) (.done s)

theorem Performs.ask (prompt : String) (reply : Option String) :
    Performs c s [.ask prompt reply] s :=
  .aside (.inr rfl) (.done s)

theorem Lines.performs (ht : Lines t) : Performs c s t s := by
  induction t with
  | nil => exact .done s
  | cons e t ih =>
    obtain ⟨he, hlines⟩ := List.forall_mem_cons.mp ht
    exact .aside (.inl he) (ih hlines)

/-! ## Steps -/

theorem Performs.toMenu (h : Performs c s happened s') (candidate : String) :
    Performs c s (toMenu happened candidate s').trace (toMenu happened candidate s').world :=
  h.append (lines_presentation candidate).performs

theorem Performs.toCancel (h : Performs c s happened s') :
    Performs c s (toCancel happened s').trace (toCancel happened s').world :=
  h.append (.show _)

theorem Performs.diffed {reply : Except VcsError String} (h : c.diff s = (reply, s')) :
    Performs c s [.diff reply] s' := by
  have hcall : Performs c s [.diff (c.diff s).1] (c.diff s).2 := .diff (.done _)
  rwa [h] at hcall

theorem Performs.toProposal (h : Performs c s happened s') :
    Performs c s (toProposal c happened s').trace (toProposal c happened s').world := by
  unfold Session.toProposal propose consult
  rcases hdiff : c.diff s' with ⟨e | diff, world⟩
  · exact h.append (.diffed hdiff)
  · have hcalls (t : Trace) (hlines : Lines t) : Performs c s'
        (.diff (.ok diff) :: .model (Message.prompt diff) false
          (c.model.run (Message.prompt diff) false world).1 :: t)
        (c.model.run (Message.prompt diff) false world).2 :=
      (Performs.diffed hdiff).append (.model hlines.performs)
    exact (h.append (hcalls _ (lines_complaints _))).toMenu _

theorem Performs.toCommit (h : Performs c s happened s') (message success failure : String) :
    Performs c s (toCommit c happened message success failure s').trace
      (toCommit c happened message success failure s').world := by
  rw [toCommit_eq]
  exact h.append (.commit (.show _))

theorem Performs.accept (h : Performs c s happened s') (candidate : String) :
    Performs c s (accept c happened candidate s').trace (accept c happened candidate s').world := by
  unfold Session.accept
  split_ifs
  · exact (h.append (.show _)).toMenu candidate
  · exact h.toCommit ..

theorem Performs.replace (h : Performs c s happened s') (candidate line : String) :
    Performs c s (replace c happened candidate line s').trace
      (replace c happened candidate line s').world := by
  unfold Session.replace
  split_ifs
  · exact (h.append (.show _)).toMenu candidate
  · exact h.toCommit ..

theorem Performs.choose (h : Performs c s happened s') (candidate : String)
    (choice : Except InvalidChoice Choice) :
    Performs c s (choose c happened candidate s' choice).trace
      (choose c happened candidate s' choice).world := by
  rcases choice with e | choice
  · exact (h.append (.show _)).toMenu candidate
  · cases choice with
    | accept => exact h.accept candidate
    | edit => exact h
    | regenerate => exact (h.append (.show _)).toProposal
    | cancel => exact h.toCancel

theorem answer_performs (waiting : Waiting) (reply : Option String) :
    Performs c s (answer c waiting reply s).trace (answer c waiting reply s).world := by
  have hasked : Performs c s [.ask waiting.prompt reply] s := .ask _ _
  rcases reply with _ | line
  · exact hasked.toCancel
  · cases waiting with
    | menu candidate => exact hasked.choose candidate (Choice.ofAnswer line)
    | editor candidate => exact hasked.replace candidate line

/-! ## Sessions -/

theorem Performs.follow {step : Step σ} (h : Performs c s step.trace step.world)
    (answers : List (Option String)) :
    Performs c s (follow c step answers).trace (follow c step answers).world := by
  induction answers generalizing s step with
  | nil =>
    rcases step with ⟨t, ⟨waiting⟩ | ⟨result⟩, world⟩
    · exact h.append (Performs.ask waiting.prompt none).toCancel
    · rwa [follow_ended]
  | cons reply rest ih =>
    rcases step with ⟨t, ⟨waiting⟩ | ⟨result⟩, world⟩
    · exact h.append (ih (answer_performs waiting reply))
    · rwa [follow_ended]

/-- A session performs its trace, from the world it starts in to the one it leaves. -/
theorem run_performs (c : Collaborators σ) (answers : List (Option String)) (s : σ) :
    Performs c s (run c answers s).trace (run c answers s).world :=
  Performs.follow (Performs.show "Generating...").toProposal answers

end Stagehand.Session
