import Stagehand.Proofs.Session.CommitSafety
import Stagehand.Proofs.Session.Performance
/-!
# Where the failures of a session lead

A session can meet four failures. Only one gets out: when the staged changes cannot be had the
session ends there and then with that failure, before anything is committed. A model that fails
leads to an empty proposal, a commit that fails and an answer that cannot be read to an outcome.
What a session leads to is settled by its last turn (`Turn.concludes`), for no turn that leads on
meets the first failure (`Turn.supplied`). The main statement is `run_contained`.
-/

namespace Stagehand.Session

/-- Every request for the staged changes is granted. -/
def Supplied (t : Trace) : Prop :=
  ∀ e, .diff (.error e) ∉ t

/-- The two ways to conclude: with an outcome, or with a request for the staged changes that fails,
the first to do so, after which nothing happens. -/
inductive Concludes : Trace → Except VcsError Outcome → Prop
  | outcome {t : Trace} (outcome : Outcome) : Supplied t → Concludes t (.ok outcome)
  | failed {before : Trace} (e : VcsError) : Supplied before → Lacks .commit before →
      Concludes (before ++ [.diff (.error e)]) (.error e)

/-- Where the failures in a session on a list of answers lead. -/
structure Contained {σ : Type} (c : Collaborators σ) (answers : List (Option String)) (s : σ) :
    Prop where
  /-- A session fails exactly when a request for the staged changes does, and with its failure. -/
  escapes : ∀ e, (run c answers s).result = .error e ↔ .diff (.error e) ∈ (run c answers s).trace
  /-- Nothing happens after such a request and nothing has been committed before it, and the
  failure is the one that the repository gave. -/
  last : ∀ before e after, (run c answers s).trace = before ++ .diff (.error e) :: after →
    after = [] ∧ Lacks .commit before ∧
      ∃ world, Performs c s before world ∧ c.diff world = (.error e, (run c answers s).world)
  /-- A commit that fails is an outcome. -/
  commit : ∀ message e, .commit message (.error e) ∈ (run c answers s).trace →
    (run c answers s).result = .ok .commitFailed
  /-- A question that is not answered is an outcome. -/
  input : ∀ prompt, .ask prompt none ∈ (run c answers s).trace →
    (run c answers s).result = .ok .cancelled
  /-- A model that fails is complained about, and leads to an empty proposal at the menu. -/
  model : ∀ before prompt echo reply after e,
    (run c answers s).trace = before ++ .model prompt echo reply :: after →
    reply.result = .error e →
    ∃ answer rest, after = .complain (complaint e) ::
      .show "" :: .show "Proposed commit message:" :: .show "" :: .ask menuPrompt answer :: rest

/-! ## Requests that are granted -/

theorem Lacks.supplied {t : Trace} (h : Lacks .diff t) : Supplied t :=
  fun _ => h.not_mem rfl

theorem Supplied.append {t u : Trace} (ht : Supplied t) (hu : Supplied u) : Supplied (t ++ u) := by
  intro e hmem
  rcases List.mem_append.mp hmem with h | h
  · exact ht e h
  · exact hu e h

theorem Proposed.supplied {t : Trace} {waiting : Waiting} (h : Proposed t (.waiting waiting)) :
    Supplied t := by
  cases h with
  | made diff reply =>
    have hlater : Lacks .diff (.model (Message.prompt diff) false reply ::
        (complaints reply.result ++ presentation (candidateOf reply.result))) :=
      .cons (by simp [Event.kind]) ((lines_after_reply reply.result).lacks (by decide))
    intro e hmem
    rcases List.mem_cons.mp hmem with h | h
    · cases h
    · exact hlater.supplied e h

/-- A turn that leads on has been granted what it asked for. -/
theorem Turn.supplied {waiting next : Waiting} {t : Trace} (h : Turn waiting t (.waiting next)) :
    Supplied t := by
  obtain ⟨reply, tail, rfl, ⟨-, hlines | ⟨message, came, line, -, hend⟩⟩ |
    ⟨-, line, made, rfl, hmade⟩⟩ := h.acts
  · have hdiff : Lacks .diff tail := hlines.lacks (by decide)
    exact (hdiff.cons (by simp [Event.kind])).supplied
  · cases hend
  · have hasked : Lacks .diff [.ask waiting.prompt reply, .show line] := by
      simp [Lacks, Event.kind]
    exact hasked.supplied.append hmade.supplied

theorem History.supplied {past : Trace} {waiting : Waiting} (h : History past waiting) :
    Supplied past := by
  induction h with
  | opening hproposed =>
    have hopening : Lacks .diff [.show "Generating..."] := by simp [Lacks, Event.kind]
    exact hopening.supplied.append hproposed.supplied
  | turn _ hturn ih => exact ih.append hturn.supplied

/-! ## The conclusion -/

theorem Concludes.after {past t : Trace} {result : Except VcsError Outcome}
    (h : Concludes t result) (hsupplied : Supplied past) (hquiet : Lacks .commit past) :
    Concludes (past ++ t) result := by
  cases h with
  | outcome outcome ht => exact .outcome outcome (hsupplied.append ht)
  | failed e ht hcommit =>
    rw [← List.append_assoc]
    exact .failed e (hsupplied.append ht) (hquiet.append hcommit)

/-- The turn that ends a session concludes it. -/
theorem Turn.concludes {waiting : Waiting} {t : Trace} {result : Except VcsError Outcome}
    (h : Turn waiting t (.ended result)) : Concludes t result := by
  cases h with
  | unread | cancel _ | accept _ _ _ | replace _ _ =>
    exact .outcome _ (Lacks.supplied (by simp [Lacks, Event.kind]))
  | @regenerate candidate line _ _ _ hproposed =>
    cases hproposed with
    | failed e =>
      have hdiff : Lacks .diff [.ask menuPrompt (some line),
          .show "Regenerating commit message..."] := by simp [Lacks, Event.kind]
      exact .failed e hdiff.supplied (by simp [Lacks, Event.kind])

theorem Conversation.concludes {t : Trace} {result : Except VcsError Outcome}
    (h : Conversation t result) : Concludes t result := by
  rcases h.last_turn with ⟨e, rfl, rfl⟩ | ⟨past, waiting, last, rfl, hpast, hlast⟩
  · have hdiff : Lacks .diff [.show "Generating..."] := by simp [Lacks, Event.kind]
    exact .failed e hdiff.supplied (by simp [Lacks, Event.kind])
  · exact hlast.concludes.after hpast.supplied hpast.lacks_commit

/-- The request that failed is the only event that the trace can be cut at as such. -/
theorem Concludes.cut {t before after : Trace} {result : Except VcsError Outcome} {e : VcsError}
    (h : Concludes t result) (hcut : t = before ++ .diff (.error e) :: after) :
    after = [] ∧ Lacks .commit before ∧ result = .error e := by
  cases h with
  | outcome outcome hsupplied => exact absurd (by rw [hcut]; simp) (hsupplied e)
  | @failed earlier other hsupplied hquiet =>
    obtain ⟨b, rfl, hlast⟩ := cut_second (hsupplied e) hcut
    cases b with
    | nil =>
      obtain ⟨rfl, rfl⟩ : other = e ∧ [] = after := by simpa using hlast
      exact ⟨rfl, by rwa [List.append_nil], rfl⟩
    | cons first b => simp at hlast

theorem Concludes.error_iff {t : Trace} {result : Except VcsError Outcome} (h : Concludes t result)
    (e : VcsError) : result = .error e ↔ .diff (.error e) ∈ t := by
  constructor
  · rintro rfl
    cases h with
    | failed => simp
  · intro hmem
    obtain ⟨before, after, hcut⟩ := List.append_of_mem hmem
    exact (h.cut hcut).2.2

/-! ## Failures that stay inside -/

/-- Where an answer cannot be read the session is cancelled. -/
theorem Future.cancelled {waiting : Waiting} {prompt : String} {rest : Trace}
    {result : Except VcsError Outcome} (h : Future waiting (.ask prompt none :: rest) result) :
    result = .ok .cancelled := by
  have hends {t : Trace} {stand : Stand} (hturn : Turn waiting t stand)
      (hhead : t.head? = some (.ask prompt none)) : stand = .ended (.ok .cancelled) := by
    cases hturn with
    | unread => rfl
    | _ => simp at hhead
  generalize ht : Event.ask prompt none :: rest = t at h
  cases h with
  | last hturn =>
    have hstand := hends hturn (by rw [← ht]; rfl)
    simpa using hstand
  | next hturn _ =>
    obtain ⟨reply, tail, rfl, -⟩ := hturn.head
    obtain ⟨hhead, -⟩ := List.cons.inj ht
    cases hends hturn (by rw [← hhead]; rfl)

theorem Conversation.cancelled {t : Trace} {result : Except VcsError Outcome} {prompt : String}
    (h : Conversation t result) (hmem : .ask prompt none ∈ t) : result = .ok .cancelled := by
  obtain ⟨before, after, hcut⟩ := List.append_of_mem hmem
  obtain ⟨waiting, -, -, hfuture⟩ := h.split_at_ask hcut
  exact hfuture.cancelled

/-- A reply that is a failure makes an empty proposal, and the menu asks what to do with it. -/
theorem Conversation.recovers {t before after : Trace} {result : Except VcsError Outcome}
    {prompt : String} {echo : Bool} {reply : ModelReply} {e : ModelError}
    (h : Conversation t result) (hcut : t = before ++ .model prompt echo reply :: after)
    (hreply : reply.result = .error e) :
    ∃ answer rest, after = .complain (complaint e) :: .show "" ::
      .show "Proposed commit message:" :: .show "" :: .ask menuPrompt answer :: rest := by
  obtain ⟨-, later, rfl, hfuture⟩ := h.split_at_model hcut
  obtain ⟨answer, rest, rfl⟩ := hfuture.head
  rw [hreply]
  exact ⟨answer, rest, rfl⟩

/-! ## Sessions -/

/-- In every session only a failing request for the staged changes gets out. -/
theorem run_contained {σ : Type} (c : Collaborators σ) (answers : List (Option String)) (s : σ) :
    Contained c answers s where
  escapes := (run_conversation c answers s).concludes.error_iff
  last before e after hcut := by
    obtain ⟨rfl, hquiet, -⟩ := (run_conversation c answers s).concludes.cut hcut
    have hperforms := run_performs c answers s
    rw [hcut] at hperforms
    obtain ⟨world, hbefore, hdiff⟩ := hperforms.of_append
    exact ⟨rfl, hquiet, world, hbefore, hdiff.diff_eq⟩
  commit message e hmem :=
    (run_conversation c answers s).committing.commitSafe.commitFailed.mpr ⟨message, e, hmem⟩
  input prompt hmem := (run_conversation c answers s).cancelled hmem
  model before prompt echo reply after e hcut hreply :=
    (run_conversation c answers s).recovers hcut hreply

end Stagehand.Session
