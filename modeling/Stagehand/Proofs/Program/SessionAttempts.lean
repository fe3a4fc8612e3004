import Stagehand.Program.CommitCommand
import Stagehand.Proofs.Session.Performance
import Stagehand.Proofs.System.Attempts
/-!
# The attempts of a session

With the local repository and the local model every call in the trace of a session is one attempt on
the host, and its reply is read off what starting the command led to (`Records`). What a session
attempts is thus a second record of it, beside its trace (`attempted_of_performs`), and a cut of the
one is a cut of the other (`Attempted.cut`).
-/

namespace Stagehand.Program.CommitCommand

open Session (Event Trace Performs)

/-- The attempt is the one of a call, and the call has the reply that the attempt led to. -/
inductive Records (settings : ModelSettings) : Event → Attempt → Prop
  | diff (launch : Launch) :
      Records settings (.diff (Git.outcome "diff" launch))
        ⟨Git.command {} ["diff", "--cached"], launch⟩
  | model (prompt : String) (launch : Launch) :
      Records settings (.model prompt false (settings.reply false launch))
        ⟨settings.command prompt, launch⟩
  | commit (message : String) (launch : Launch) :
      Records settings (.commit message ((Git.outcome "commit" launch).map fun _ => ()))
        ⟨Git.command {} ["commit", "-m", message], launch⟩

/-- The attempts are those of the calls in the trace, in order. -/
inductive Attempted (settings : ModelSettings) : Trace → List Attempt → Prop
  | none : Attempted settings [] []
  | aside {e : Event} {t : Trace} {attempts : List Attempt} : e.kind = .line ∨ e.kind = .ask →
      Attempted settings t attempts → Attempted settings (e :: t) attempts
  | call {e : Event} {a : Attempt} {t : Trace} {attempts : List Attempt} : Records settings e a →
      Attempted settings t attempts → Attempted settings (e :: t) (a :: attempts)

variable {settings : ModelSettings}

/-! ## Single attempts -/

/-- Git is asked for the staged changes by a request for them and by nothing else. -/
theorem Records.of_diff {e : Event} {a : Attempt} (h : Records settings e a)
    (hcommand : a.command = Git.command {} ["diff", "--cached"]) :
    e = .diff (Git.outcome "diff" a.launch) := by
  cases h with
  | diff => rfl
  | model | commit => simp [ModelSettings.command, ModelSettings.arguments, Git.command] at hcommand

/-- The model is called by a call of it and by nothing else. -/
theorem Records.of_run {e : Event} {a : Attempt} (h : Records settings e a)
    (hcommand : a.command.arguments.head? = some "run") :
    ∃ prompt, e = .model prompt false (settings.reply false a.launch) ∧
      a.command = settings.command prompt := by
  cases h with
  | model prompt launch => exact ⟨prompt, rfl, rfl⟩
  | diff | commit => simp [Git.command] at hcommand

theorem Attempted.of_aside {e : Event} {t : Trace} {attempts : List Attempt}
    (h : Attempted settings (e :: t) attempts) (hkind : e.kind = .line ∨ e.kind = .ask) :
    Attempted settings t attempts := by
  cases h with
  | aside _ hrest => exact hrest
  | call hrecord _ => cases hrecord <;> simp [Event.kind] at hkind

theorem Attempted.of_diff {reply : Except VcsError String} {t : Trace} {attempts : List Attempt}
    (h : Attempted settings (.diff reply :: t) attempts) :
    ∃ a rest, attempts = a :: rest ∧ a.command = Git.command {} ["diff", "--cached"] ∧
      reply = Git.outcome "diff" a.launch ∧ Attempted settings t rest := by
  cases h with
  | aside hkind => simp [Event.kind] at hkind
  | call hrecord hrest =>
    cases hrecord with
    | diff launch => exact ⟨_, _, rfl, rfl, rfl, hrest⟩

theorem Attempted.of_model {prompt : String} {reply : ModelReply} {t : Trace}
    {attempts : List Attempt} (h : Attempted settings (.model prompt false reply :: t) attempts) :
    ∃ a rest, attempts = a :: rest ∧ a.command = settings.command prompt := by
  cases h with
  | aside hkind => simp [Event.kind] at hkind
  | call hrecord _ =>
    cases hrecord
    exact ⟨_, _, rfl, rfl⟩

/-- Git is asked for a commit by a commit and by nothing else. -/
theorem Records.kind_eq_commit {e : Event} {a : Attempt} (h : Records settings e a)
    (hcommand : a.command.arguments.head? = some "commit") : e.kind = .commit := by
  cases h with
  | commit => rfl
  | diff | model => simp [ModelSettings.command, ModelSettings.arguments, Git.command] at hcommand

theorem Attempted.of_commit {message line : String} {came : Except VcsError Unit}
    {attempts : List Attempt}
    (h : Attempted settings [.commit message came, .show line] attempts) :
    ∃ launch, attempts = [⟨Git.command {} ["commit", "-m", message], launch⟩] ∧
      came = (Git.outcome "commit" launch).map fun _ => () := by
  cases h with
  | aside hkind => simp [Event.kind] at hkind
  | call hrecord hrest =>
    cases hrecord with
    | commit _ launch =>
      cases hrest with
      | call hshown => cases hshown
      | aside _ hnone =>
        cases hnone
        exact ⟨launch, rfl, rfl⟩

/-! ## Whole sessions -/

/-- A host on which a trace is performed has attempted the calls in it. -/
theorem attempted_of_performs {host host' : Host} {t : Trace}
    (h : Performs (collaborators settings) host t host') :
    Attempted settings t (host.made host') := by
  have hmade : ∃ attempts, host'.attempts = host.attempts ++ attempts ∧
      Attempted settings t attempts := by
    induction h with
    | done s => exact ⟨[], (List.append_nil _).symm, .none⟩
    | aside hkind _ ih =>
      obtain ⟨attempts, hhost, hattempts⟩ := ih
      exact ⟨attempts, hhost, .aside hkind hattempts⟩
    | diff _ ih | model _ ih | commit _ ih =>
      -- The host keeps the attempt of the call before those of the rest.
      obtain ⟨attempts, hhost, hattempts⟩ := ih
      refine ⟨_ :: attempts, ?_, .call (by constructor) hattempts⟩
      rw [hhost, List.append_cons]
      rfl
  obtain ⟨attempts, hhost, hattempts⟩ := hmade
  rwa [Host.made_of_append hhost]

/-- Every attempt has led to what the host at that time said to its command. -/
def Launched (attempts : List Attempt) : Prop :=
  ∀ a ∈ attempts, ∃ asked : Host, a.launch = asked.launch a.command

theorem Launched.start {s host' : Host} {c : Command} {attempts : List Attempt}
    (h : Launched attempts) (hhost : host'.attempts = (s.start c).2.attempts ++ attempts) :
    ∃ attempts, host'.attempts = s.attempts ++ attempts ∧ Launched attempts := by
  rw [Host.attempts_start, List.append_assoc] at hhost
  exact ⟨_, hhost, List.forall_mem_cons.mpr ⟨⟨s, rfl⟩, h⟩⟩

theorem launched_of_performs {host host' : Host} {t : Trace}
    (h : Performs (collaborators settings) host t host') : Launched (host.made host') := by
  have hmade : ∃ attempts, host'.attempts = host.attempts ++ attempts ∧ Launched attempts := by
    induction h with
    | done s => exact ⟨[], (List.append_nil _).symm, nofun⟩
    | aside _ _ ih => exact ih
    | diff _ ih | model _ ih | commit _ ih =>
      obtain ⟨attempts, hhost, hattempts⟩ := ih
      exact hattempts.start hhost
  obtain ⟨attempts, hhost, hattempts⟩ := hmade
  rwa [Host.made_of_append hhost]

/-- Where the trace is cut the attempts are. -/
theorem Attempted.of_append {t u : Trace} {attempts : List Attempt}
    (h : Attempted settings (t ++ u) attempts) :
    ∃ before after, attempts = before ++ after ∧ Attempted settings t before ∧
      Attempted settings u after := by
  induction t generalizing attempts with
  | nil => exact ⟨[], attempts, rfl, .none, h⟩
  | cons e t ih =>
    cases h with
    | aside hkind hrest =>
      obtain ⟨before, after, rfl, hbefore, hafter⟩ := ih hrest
      exact ⟨before, after, rfl, .aside hkind hbefore, hafter⟩
    | call hrecord hrest =>
      obtain ⟨before, after, rfl, hbefore, hafter⟩ := ih hrest
      exact ⟨_ :: before, after, rfl, .call hrecord hbefore, hafter⟩

/-- Where the attempts are cut at one of them, the trace is cut at its call. -/
theorem Attempted.cut {t : Trace} {before after : List Attempt} {a : Attempt}
    (h : Attempted settings t (before ++ a :: after)) :
    ∃ past e later, t = past ++ e :: later ∧ Attempted settings past before ∧
      Records settings e a ∧ Attempted settings later after := by
  generalize hcut : before ++ a :: after = attempts at h
  induction h generalizing before with
  | none => simp at hcut
  | aside hkind _ ih =>
    obtain ⟨past, e, later, rfl, hpast, hrecord, hlater⟩ := ih hcut
    exact ⟨_ :: past, e, later, rfl, .aside hkind hpast, hrecord, hlater⟩
  | call hfirst hrest ih =>
    cases before with
    | nil =>
      obtain ⟨rfl, rfl⟩ := List.cons.inj hcut
      exact ⟨[], _, _, rfl, .none, hfirst, hrest⟩
    | cons b before =>
      obtain ⟨rfl, htail⟩ := List.cons.inj hcut
      obtain ⟨past, e, later, rfl, hpast, hrecord, hlater⟩ := ih htail
      exact ⟨_ :: past, e, later, rfl, .call hfirst hpast, hrecord, hlater⟩

end Stagehand.Program.CommitCommand
