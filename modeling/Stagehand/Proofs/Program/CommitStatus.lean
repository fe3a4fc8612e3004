import Stagehand.Proofs.Program.PipedCommit
import Stagehand.Proofs.Program.SessionAttempts
import Stagehand.Proofs.Session.CommitSafety
/-!
# The exit status of `gcm`

An ordinary run exits with zero exactly when it has started one commit and that went well, and with
one in all other cases. The attempts of its session show no commit at all, or a single one as the
last attempt of all, with the message that the user has approved (`Closes`). What the checks before
the session refuse is refused before anything is attempted. The main statement is `run_accountable`.
-/

namespace Stagehand.Program.CommitCommand

open Session (Answers Approved Committing Conversation Lacks Trace)

/-- The command has git commit. -/
def isCommit (c : Command) : Bool :=
  c.program == "git" && c.arguments.head? == some "commit"

/-- The attempts that started git to commit. -/
def commits (attempts : List Attempt) : List Attempt :=
  attempts.filter fun a => a.started && isCommit a.command

/-- The session in these surroundings with the answers. -/
def sessionOf (s : Surroundings) (settings : ModelSettings) (answers : List String) :
    Session.Run (List (Option String)) Host :=
  Session.run (collaborators settings) (answers.map some) s.host

/-- In the session on standard input the user approves a message that is not blank. -/
def Accepted (s : Surroundings) (settings : ModelSettings) (message : String) : Prop :=
  Text.isBlankText message = false ∧
    ∃ answers before after, Answers s.input answers ∧
      (sessionOf s settings answers).trace = before ++ after ∧ Approved before message

/-- The command is run in a work tree, and the program of the model is installed. -/
def Ready (s : Surroundings) (settings : ModelSettings) : Prop :=
  (∃ root, s.workTree = .ok root) ∧ s.installed settings.program = true

/-- Nothing is attempted, and besides the log nothing is written but one line about the failure. -/
structure Refused (s : Surroundings) (line : String) : Prop where
  attempts : s.host.made (run s).host = []
  output : (run s).output = []
  errors : (run s).errors = Text.Utf8.encode line
  exit : (run s).exit = 1

/-- The exit status of the command tells whether it has committed, and what it commits is what the
user has approved. -/
structure Accountable (s : Surroundings) (settings : ModelSettings) : Prop where
  /-- Zero says that there was just one commit and that it went well. -/
  zero : (run s).exit = 0 ↔
    ∃ a, commits (s.host.made (run s).host) = [a] ∧ a.EndedWith (.exited 0)
  /-- Everything else gives one. -/
  one : (run s).exit ≠ 0 → (run s).exit = 1
  atMostOne : (commits (s.host.made (run s).host)).length ≤ 1
  /-- Nothing is attempted after a commit. -/
  last : ∀ before a after, s.host.made (run s).host = before ++ a :: after →
    isCommit a.command = true → after = []
  /-- A commit is given a message that the user has approved, as it is. -/
  message : ∀ a ∈ s.host.made (run s).host, isCommit a.command = true →
    ∃ message, Accepted s settings message ∧
      a.command = { program := "git", arguments := ["commit", "-m", message] }
  /-- And a message that the user has approved is committed. -/
  attempted : Ready s settings → ∀ message, Accepted s settings message →
    ∃ a ∈ s.host.made (run s).host,
      a.command = { program := "git", arguments := ["commit", "-m", message] }
  /-- But a message with a NUL in it starts no commit. -/
  nul : ∀ message, Accepted s settings message → hasNul message = true →
    commits (s.host.made (run s).host) = [] ∧ (run s).exit = 1
  /-- Outside of a work tree the command is refused, whatever is installed. -/
  noWorkTree : ∀ e, s.workTree = .error e →
    Refused s (Report.failureLine "gcm must be run from within a git work tree" e.message e.causes)
  /-- Without the program of the model it is refused next. -/
  noRunner : ∀ root, s.workTree = .ok root → s.installed settings.program = false →
    Refused s (Report.failureLine "A local model runner is required"
      s!"Model runner '{settings.program}' not found on PATH" [])

/-! ## Commits among attempts -/

/-- No attempt was to commit. -/
def Spares (attempts : List Attempt) : Prop :=
  ∀ a ∈ attempts, isCommit a.command = false

theorem Spares.commits_eq_nil {attempts : List Attempt} (h : Spares attempts) :
    commits attempts = [] := by
  refine List.filter_eq_nil_iff.mpr ?_
  intro a ha
  simp [h a ha]

theorem commits_append_of_spares {before after : List Attempt} (h : Spares before) :
    commits (before ++ after) = commits after := by
  unfold commits
  rw [List.filter_append]
  change commits before ++ commits after = commits after
  rw [h.commits_eq_nil, List.nil_append]

/-- Git went well with a commit when its process exited with zero. -/
theorem commit_eq_ok_iff (launch : Launch) :
    ((Git.outcome "commit" launch).map fun _ => ()) = .ok () ↔
      ∃ b, launch = .ok b ∧ b.ending = .exited 0 := by
  have hmap : ((Git.outcome "commit" launch).map fun _ => ()) = .ok () ↔
      ∃ text, Git.outcome "commit" launch = .ok text := by
    cases Git.outcome "commit" launch <;> simp [Except.map]
  rw [hmap]
  simp [Git.outcome_eq_ok_iff]

variable {settings : ModelSettings}

theorem Attempted.spares {t : Trace} {attempts : List Attempt}
    (h : Attempted settings t attempts) (hquiet : Lacks .commit t) : Spares attempts := by
  induction h with
  | none => exact nofun
  | aside _ _ ih => exact ih fun e he => hquiet e (List.mem_cons_of_mem _ he)
  | @call e a t attempts hrecord _ ih =>
    refine List.forall_mem_cons.mpr ⟨?_, ih fun e he => hquiet e (List.mem_cons_of_mem _ he)⟩
    rw [Bool.eq_false_iff]
    intro hcommit
    have hhead : a.command.arguments.head? = some "commit" := by
      unfold isCommit at hcommit
      simpa using (Bool.and_eq_true_iff.mp hcommit).2
    exact hquiet e List.mem_cons_self (hrecord.kind_eq_commit hhead)

/-- The two ways of the attempts of a session: none of them was to commit, and the session has not
committed; or the last one alone was, with an approved message, and its process tells whether the
session has committed. -/
inductive Closes (t : Trace) : List Attempt → Except VcsError Outcome → Prop
  | never {attempts : List Attempt} {result : Except VcsError Outcome} : Spares attempts →
      Lacks .commit t → result = .ok .cancelled ∨ (∃ e, result = .error e) →
      Closes t attempts result
  | once {before : List Attempt} {past after : Trace} {message : String} (launch : Launch) :
      Spares before → t = past ++ after → Approved past message →
      Text.isBlankText message = false →
      Closes t (before ++ [⟨Git.command {} ["commit", "-m", message], launch⟩])
        (.ok (.ofCommit ((Git.outcome "commit" launch).map fun _ => ())))

theorem Attempted.closes {t : Trace} {attempts : List Attempt} {result : Except VcsError Outcome}
    (h : Attempted settings t attempts) (hcommitting : Committing t result) :
    Closes t attempts result := by
  cases hcommitting with
  | never hquiet hresult => exact .never (h.spares hquiet) hquiet hresult
  | once came line hquiet happroved hblank =>
    obtain ⟨before, after, rfl, hbefore, hafter⟩ := h.of_append
    obtain ⟨launch, rfl, rfl⟩ := hafter.of_commit
    exact .once launch (hbefore.spares hquiet) rfl happroved hblank

/-- The exit code for the result of a session. -/
def exitOf : Except VcsError Outcome → UInt8
  | .ok outcome => outcome.exitCode
  | .error _ => Report.failure

theorem exitOf_ne_zero {result : Except VcsError Outcome} (h : exitOf result ≠ 0) :
    exitOf result = 1 := by
  rcases result with e | outcome
  · rfl
  · cases outcome with
    | committed => exact absurd rfl h
    | cancelled | commitFailed => rfl

section Closes

variable {t : Trace} {attempts : List Attempt} {result : Except VcsError Outcome}

theorem Closes.exit_eq_zero_iff (h : Closes t attempts result) :
    exitOf result = 0 ↔ ∃ a, commits attempts = [a] ∧ a.EndedWith (.exited 0) := by
  cases h with
  | never hspares _ hresult =>
    have hfailed : exitOf result ≠ 0 := by
      obtain rfl | ⟨e, rfl⟩ := hresult <;> simp [exitOf, Outcome.exitCode, Report.failure]
    simp [hfailed, hspares.commits_eq_nil]
  | @once before _ _ message launch hspares _ _ _ =>
    rw [exitOf, Outcome.exitCode_eq_zero_iff, Outcome.ofCommit_eq_committed, commit_eq_ok_iff,
      commits_append_of_spares hspares]
    constructor
    · rintro ⟨b, rfl, hended⟩
      exact ⟨_, rfl, b, rfl, hended⟩
    · rintro ⟨a, hcommits, hended⟩
      -- The attempt that is kept is the one there is.
      have hmem : a ∈ commits [⟨Git.command {} ["commit", "-m", message], launch⟩] := by
        rw [hcommits]
        exact List.mem_singleton_self a
      obtain rfl := List.mem_singleton.mp (List.mem_filter.mp hmem).1
      exact hended

theorem Closes.atMostOne (h : Closes t attempts result) : (commits attempts).length ≤ 1 := by
  cases h with
  | never hspares => simp [hspares.commits_eq_nil]
  | once launch hspares =>
    rw [commits_append_of_spares hspares]
    exact List.length_filter_le ..

theorem Closes.last (h : Closes t attempts result) {before after : List Attempt} {a : Attempt}
    (hcut : attempts = before ++ a :: after) (hcommit : isCommit a.command = true) :
    after = [] := by
  have hnot {spared : List Attempt} (hspares : Spares spared) : a ∉ spared := by
    intro ha
    rw [hspares a ha] at hcommit
    cases hcommit
  cases h with
  | never hspares => exact absurd (by rw [hcut]; simp) (hnot hspares)
  | once launch hspares =>
    obtain ⟨d, rfl, hd⟩ := Session.cut_second (hnot hspares) hcut
    have hlength := congrArg List.length hd
    simp only [List.length_append, List.length_cons, List.length_nil] at hlength
    exact List.eq_nil_of_length_eq_zero (by omega)

/-- What is committed has been approved. -/
theorem Closes.message (h : Closes t attempts result) {a : Attempt} (ha : a ∈ attempts)
    (hcommit : isCommit a.command = true) :
    ∃ message past after, t = past ++ after ∧ Approved past message ∧
      Text.isBlankText message = false ∧ a.command = Git.command {} ["commit", "-m", message] := by
  cases h with
  | never hspares =>
    rw [hspares a ha] at hcommit
    cases hcommit
  | once launch hspares hcut happroved hblank =>
    obtain hbefore | hlast := List.mem_append.mp ha
    · rw [hspares a hbefore] at hcommit
      cases hcommit
    · obtain rfl := List.mem_singleton.mp hlast
      exact ⟨_, _, _, hcut, happroved, hblank, rfl⟩

/-- What has been approved is committed, and nothing else is. -/
theorem Closes.approved (h : Closes t attempts result) (hconversation : Conversation t result)
    {past after : Trace} {message : String} (hcut : t = past ++ after)
    (happroved : Approved past message) (hblank : Text.isBlankText message = false) :
    ∃ before launch, Spares before ∧
      attempts = before ++ [⟨Git.command {} ["commit", "-m", message], launch⟩] ∧
      result = .ok (.ofCommit ((Git.outcome "commit" launch).map fun _ => ())) := by
  subst hcut
  obtain ⟨came, line, rfl⟩ := hconversation.commits_approved happroved hblank
  cases h with
  | never _ hquiet => exact absurd rfl (hquiet (.commit message came) (by simp))
  | once launch hspares hother happroved hwritten =>
    -- Both approvals are followed by a commit and one line, so that it is the same commit.
    rw [hother] at hconversation
    obtain ⟨other, shown, rfl⟩ := hconversation.commits_approved happroved hwritten
    obtain ⟨-, hsame⟩ := List.append_inj' hother rfl
    obtain ⟨⟨rfl, -⟩, -⟩ : (message = _ ∧ _) ∧ _ := by simpa using hsame
    exact ⟨_, launch, hspares, rfl, rfl⟩

end Closes

/-! ## The command -/

section Run

variable {s : Surroundings} {given : Given}

theorem refused_of_failed {context message : String} {causes : List String}
    (h : run s = .failed s.host context message causes) :
    Refused s (Report.failureLine context message causes) := by
  constructor
  case attempts =>
    rw [h]
    exact Host.made_of_append (List.append_nil _).symm
  all_goals
    rw [h]
    rfl

theorem refused_without_workTree (hread : grammar.read s.arguments = .ok given) {e : VcsError}
    (hroot : s.workTree = .error e) :
    Refused s (Report.failureLine "gcm must be run from within a git work tree" e.message
      e.causes) := by
  apply refused_of_failed
  unfold run runWith
  simp only [hread, hroot]

theorem refused_without_runner (hread : grammar.read s.arguments = .ok given) {root : String}
    (hroot : s.workTree = .ok root)
    (hmissing : s.installed (CommitCommand.settings given s.environment).program = false) :
    Refused s (Report.failureLine "A local model runner is required"
      s!"Model runner '{(CommitCommand.settings given s.environment).program}' not found on PATH"
      []) := by
  apply refused_of_failed
  unfold run runWith ModelSettings.checkInstalled
  simp only [hread, hroot, hmissing, Bool.false_eq_true, if_false]
  rfl

/-- With the checks passed the attempts are those of the session, and so is the exit code. -/
theorem run_closes (hread : grammar.read s.arguments = .ok given)
    (hready : Ready s (CommitCommand.settings given s.environment)) {answers : List String}
    (hanswers : Answers s.input answers) {session : Session.Run (List (Option String)) Host}
    (hsession : sessionOf s (CommitCommand.settings given s.environment) answers = session) :
    Conversation session.trace session.result ∧ Launched (s.host.made (run s).host) ∧
      Closes session.trace (s.host.made (run s).host) session.result ∧
      (run s).exit = exitOf session.result := by
  obtain ⟨⟨root, hroot⟩, hinstalled⟩ := hready
  have hperforms := Session.run_performs
    (collaborators (CommitCommand.settings given s.environment)) (answers.map some) s.host
  have hconversation := Session.run_conversation
    (collaborators (CommitCommand.settings given s.environment)) (answers.map some) s.host
  have hagrees := Session.runBytes_agrees
    (collaborators (CommitCommand.settings given s.environment)) hanswers s.host
  unfold sessionOf at hsession
  rw [hsession] at hperforms hconversation hagrees
  have hrefines := refines_of_agrees hagrees hperforms
  rw [← run_eq_ofRun hread hroot hinstalled] at hrefines
  have hmade : s.host.made (run s).host = s.host.made session.world := by
    unfold Host.made
    rw [hrefines.attempts]
  rw [hmade]
  refine ⟨hconversation, launched_of_performs hperforms, ?_, ?_⟩
  · exact (attempted_of_performs hperforms).closes hconversation.committing
  · rw [hrefines.exit]
    cases session.result <;> rfl

/-- A run that is refused before the session is accountable: it has done nothing. -/
theorem accountable_of_refused {settings : ModelSettings} {line : String} (h : Refused s line)
    (hunready : ¬ Ready s settings)
    (hnoWorkTree : ∀ e, s.workTree = .error e → Refused s
      (Report.failureLine "gcm must be run from within a git work tree" e.message e.causes))
    (hnoRunner : ∀ root, s.workTree = .ok root → s.installed settings.program = false →
      Refused s (Report.failureLine "A local model runner is required"
        s!"Model runner '{settings.program}' not found on PATH" [])) :
    Accountable s settings := by
  constructor
  case zero => simp [h.exit, h.attempts, commits]
  case one => exact fun _ => h.exit
  case atMostOne => simp [h.attempts, commits]
  case last =>
    intro before a after hcut
    simp [h.attempts] at hcut
  case message =>
    intro a ha
    rw [h.attempts] at ha
    cases ha
  case attempted => exact fun hready => absurd hready hunready
  case nul =>
    intro message _ _
    rw [h.attempts]
    exact ⟨rfl, h.exit⟩
  case noWorkTree => exact hnoWorkTree
  case noRunner => exact hnoRunner

/-- A message with a NUL in it is given to no process. -/
theorem launch_of_nul {host : Host} {message : String} (h : hasNul message = true) :
    host.launch (Git.command {} ["commit", "-m", message]) = .error .nulByte := by
  have hnul : (Git.command {} ["commit", "-m", message]).hasNul = true := by
    simp [Command.hasNul, Git.command, h]
  exact if_pos hnul

/-- What is approved in a run is committed at its end, and its process decides the exit code. -/
theorem Accepted.commits {message : String} (hread : grammar.read s.arguments = .ok given)
    (hready : Ready s (CommitCommand.settings given s.environment))
    (h : Accepted s (CommitCommand.settings given s.environment) message) :
    ∃ before launch, Spares before ∧ Launched (s.host.made (run s).host) ∧
      s.host.made (run s).host =
        before ++ [⟨Git.command {} ["commit", "-m", message], launch⟩] ∧
      (run s).exit =
        exitOf (.ok (.ofCommit ((Git.outcome "commit" launch).map fun _ => ()))) := by
  obtain ⟨hblank, answers, past, after, hanswers, hcut, happroved⟩ := h
  obtain ⟨hconversation, hlaunched, hcloses, hexit⟩ := run_closes hread hready hanswers rfl
  obtain ⟨before, launch, hspares, hmade, hresult⟩ :=
    hcloses.approved hconversation hcut happroved hblank
  rw [hresult] at hexit
  exact ⟨before, launch, hspares, hlaunched, hmade, hexit⟩

theorem accountable_of_ready (hread : grammar.read s.arguments = .ok given)
    (hready : Ready s (CommitCommand.settings given s.environment)) :
    Accountable s (CommitCommand.settings given s.environment) := by
  obtain ⟨answers, hanswers⟩ := Session.exists_answers s.input
  obtain ⟨-, -, hcloses, hexit⟩ := run_closes hread hready hanswers rfl
  constructor
  case zero =>
    rw [hexit]
    exact hcloses.exit_eq_zero_iff
  case one =>
    rw [hexit]
    exact exitOf_ne_zero
  case atMostOne => exact hcloses.atMostOne
  case last => exact fun before a after hcut hcommit => hcloses.last hcut hcommit
  case message =>
    intro a ha hcommit
    obtain ⟨message, past, after, hcut, happroved, hblank, hcommand⟩ := hcloses.message ha hcommit
    exact ⟨message, ⟨hblank, answers, past, after, hanswers, hcut, happroved⟩, hcommand⟩
  case attempted =>
    intro _ message haccepted
    obtain ⟨before, launch, -, -, hmade, -⟩ := haccepted.commits hread hready
    exact ⟨⟨Git.command {} ["commit", "-m", message], launch⟩, by rw [hmade]; simp, rfl⟩
  case nul =>
    intro message haccepted hnul
    obtain ⟨before, launch, hspares, hlaunched, hmade, hexit⟩ := haccepted.commits hread hready
    obtain ⟨asked, hasked⟩ := hlaunched ⟨Git.command {} ["commit", "-m", message], launch⟩
      (by rw [hmade]; simp)
    obtain rfl : launch = .error .nulByte := hasked.trans (launch_of_nul hnul)
    rw [hmade, commits_append_of_spares hspares]
    exact ⟨rfl, hexit⟩
  case noWorkTree => exact fun e => refused_without_workTree hread
  case noRunner => exact fun root => refused_without_runner hread

end Run

/-- Every ordinary run is accountable, wherever it is run and whatever the processes do. -/
theorem run_accountable (s : Surroundings) (given : Given)
    (hread : grammar.read s.arguments = .ok given) :
    Accountable s (CommitCommand.settings given s.environment) := by
  have hnoWorkTree : ∀ e, s.workTree = .error e → Refused s
      (Report.failureLine "gcm must be run from within a git work tree" e.message e.causes) :=
    fun e => refused_without_workTree hread
  have hnoRunner := fun root => @refused_without_runner s given hread root
  cases hroot : s.workTree with
  | error e =>
    have hunready : ¬ Ready s (CommitCommand.settings given s.environment) := by
      rintro ⟨⟨root, hother⟩, -⟩
      rw [hroot] at hother
      cases hother
    exact accountable_of_refused (hnoWorkTree e hroot) hunready hnoWorkTree hnoRunner
  | ok root =>
    cases hinstalled : s.installed (CommitCommand.settings given s.environment).program with
    | false =>
      have hunready : ¬ Ready s (CommitCommand.settings given s.environment) := by
        rintro ⟨-, hother⟩
        rw [hinstalled] at hother
        cases hother
      exact accountable_of_refused (hnoRunner root hroot hinstalled) hunready hnoWorkTree hnoRunner
    | true => exact accountable_of_ready hread ⟨⟨root, hroot⟩, hinstalled⟩

/-- A run in which the user has the message made anew, writes one instead, and commits it. -/
def withOwnMessage : Surroundings where
  arguments := ["--timeout", "5"]
  environment name := if name = "GCM_RUNNER" then some (Text.Utf8.encode "llama") else none
  input := Text.Utf8.encode "r\nE\n fix: x \n"
  workTree := .ok "/work/"
  installed program := program == "llama"
  isDirectory _ := true
  host := {
    respond := fun earlier _ =>
      .ok { output := Text.Utf8.encode "feat: y\n", linger := earlier.length } }

theorem withOwnMessage_accountable :
    grammar.read withOwnMessage.arguments = .ok { values := [("timeout", "5")] } ∧
      Accountable withOwnMessage { program := "llama", limit := .ofSeconds 5 } ∧
      (run withOwnMessage).exit = 0 ∧
      (commits (withOwnMessage.host.made (run withOwnMessage).host)).map Attempt.command =
        [{ program := "git", arguments := ["commit", "-m", "fix: x"] }] := by
  have hread : grammar.read withOwnMessage.arguments = .ok { values := [("timeout", "5")] } := rfl
  have haccountable := run_accountable withOwnMessage { values := [("timeout", "5")] } hread
  exact ⟨hread, haccountable, by decide +kernel, by decide +kernel⟩

end Stagehand.Program.CommitCommand
