import Stagehand.Proofs.Session.Conversation
import Stagehand.Proofs.Text.Trimming
/-!
# A session commits only what the user approved

A session commits at most once, and only right after the user has accepted the message on show or
has written one in the editor (`Approved`). One line tells how the commit came out, and with it the
session ends, so that the outcome says whether there was a commit and whether it succeeded. A turn
that leads on commits nothing (`Turn.lacks_commit`), and a turn that ends the session commits
at most as its last act (`Turn.committing`); `run_commitSafe` puts this together over a whole run.
-/

namespace Stagehand

theorem Outcome.ofCommit_eq_committed {came : Except VcsError Unit} :
    Outcome.ofCommit came = .committed ↔ came = .ok () := by
  cases came <;> simp [Outcome.ofCommit]

theorem Outcome.ofCommit_eq_commitFailed {came : Except VcsError Unit} :
    Outcome.ofCommit came = .commitFailed ↔ ∃ e, came = .error e := by
  cases came <;> simp [Outcome.ofCommit]

/-- The exit code is zero for a commit that succeeded alone. -/
theorem Outcome.exitCode_eq_zero_iff (outcome : Outcome) :
    outcome.exitCode = 0 ↔ outcome = .committed := by
  cases outcome <;> decide

namespace Session

/-- The user has just approved the message: by accepting it where it is on show, or by writing it
in the editor, where it is trimmed. -/
inductive Approved : Trace → String → Prop
  | accepted {earlier : Trace} {message line : String} : Choice.ofAnswer line = .ok .accept →
      Approved (earlier ++ presentation message ++ [.ask menuPrompt (some line)]) message
  | written {earlier : Trace} {choice line : String} : Choice.ofAnswer choice = .ok .edit →
      Approved (earlier ++ [.ask menuPrompt (some choice), .ask editPrompt (some line)])
        (Text.trim line)

/-- What a whole session keeps to about commits. -/
structure CommitSafe (t : Trace) (result : Except VcsError Outcome) : Prop where
  atMostOne : t.countP (·.kind == .commit) ≤ 1
  /-- The user approved the message in the answer just read. -/
  approved : ∀ before message came after, t = before ++ .commit message came :: after →
    Approved before message
  notBlank : ∀ message came, .commit message came ∈ t →
    ∃ ch ∈ message.toList, Text.isBlank ch = false
  /-- One line follows the commit, and nothing else. -/
  final : ∀ before message came after, t = before ++ .commit message came :: after →
    ∃ line, after = [.show line]
  committed : result = .ok .committed ↔ ∃ message, .commit message (.ok ()) ∈ t
  commitFailed : result = .ok .commitFailed ↔ ∃ message e, .commit message (.error e) ∈ t
  /-- A session that is cancelled or fails commits nothing. -/
  spared : result = .ok .cancelled ∨ (∃ e, result = .error e) → Lacks .commit t
  exitCode : ∀ outcome, result = .ok outcome →
    (outcome.exitCode = 0 ↔ ∃ message, .commit message (.ok ()) ∈ t)

/-- The two ways of a session: it commits nothing and is cancelled or fails, or it commits one
approved message in the end. -/
inductive Committing : Trace → Except VcsError Outcome → Prop
  | never {t : Trace} {result : Except VcsError Outcome} : Lacks .commit t →
      result = .ok .cancelled ∨ (∃ e, result = .error e) → Committing t result
  | once {before : Trace} {message : String} (came : Except VcsError Unit) (line : String) :
      Lacks .commit before → Approved before message →
      Text.isBlankText message = false →
      Committing (before ++ [.commit message came, .show line]) (.ok (.ofCommit came))

/-! ## Turns -/

/-- A turn that leads on commits nothing. -/
theorem Turn.lacks_commit {waiting next : Waiting} {t : Trace}
    (h : Turn waiting t (.waiting next)) : Lacks .commit t := by
  obtain ⟨reply, tail, rfl, ⟨-, hlines | ⟨message, came, line, -, hend⟩⟩ |
    ⟨-, line, made, rfl, hmade⟩⟩ := h.acts
  · exact .cons (by simp [Event.kind]) (hlines.lacks (by decide))
  · cases hend
  · have hcommit := hmade.lacks (.inr rfl)
    exact .cons (by simp [Event.kind]) (.cons (by simp [Event.kind]) hcommit)

theorem History.lacks_commit {past : Trace} {waiting : Waiting} (h : History past waiting) :
    Lacks .commit past := by
  induction h with
  | opening hproposed => exact .cons (by simp [Event.kind]) (hproposed.lacks (.inr rfl))
  | turn _ hturn ih => exact ih.append hturn.lacks_commit

/-- A message that is accepted at the menu is the one on show there. -/
theorem OnShow.approved {t : Trace} {candidate line : String} (h : OnShow t candidate)
    (hchoice : Choice.ofAnswer line = .ok .accept) :
    Approved (t ++ [.ask menuPrompt (some line)]) candidate := by
  obtain ⟨earlier, prompt, reply, between, rfl, -, -⟩ := h
  have happroved : Approved (earlier ++ .model prompt false reply :: between ++
      presentation candidate ++ [.ask menuPrompt (some line)]) candidate := .accepted hchoice
  simpa using happroved

/-- A session that ends with a turn commits nothing, or what the user approves in that turn. -/
theorem Turn.committing {waiting : Waiting} {past t : Trace} {result : Except VcsError Outcome}
    (h : Turn waiting t (.ended result)) (hpast : History past waiting) :
    Committing (past ++ t) result := by
  have hquiet := hpast.lacks_commit
  have hawaits := hpast.awaits
  cases h with
  | unread | cancel _ => exact .never (hquiet.append (by simp [Lacks, Event.kind])) (.inl rfl)
  | regenerate _ hproposed =>
    cases hproposed with
    | failed e => exact .never (hquiet.append (by simp [Lacks, Event.kind])) (.inr ⟨e, rfl⟩)
  | @accept candidate line came hchoice hblank =>
    have hasked : Lacks .commit (past ++ [.ask menuPrompt (some line)]) :=
      hquiet.append (by simp [Lacks, Event.kind])
    have honce := Committing.once came (verdict "Changes committed successfully!"
      "Commit failed. Please check your changes and try again." came) hasked
      (OnShow.approved hawaits hchoice) hblank
    rwa [List.append_assoc] at honce
  | @replace candidate line came hblank =>
    -- The editor asks right after the menu, where the answer was the choice to edit.
    obtain ⟨shown, choice, rfl, -, hchoice⟩ := hawaits
    have hasked : Lacks .commit
        (shown ++ [.ask menuPrompt (some choice), .ask editPrompt (some line)]) := by
      rw [List.append_cons]
      exact hquiet.append (by simp [Lacks, Event.kind])
    have honce := Committing.once came (verdict "Changes committed successfully with your message!"
      "Commit failed. Please check your message and try again." came) hasked (.written hchoice)
      ((Text.isBlankText_trim line).trans hblank)
    simpa using honce

/-! ## What is approved -/

/-- Where an answer ends the session whatever else happens, its turn is all that follows it. -/
theorem Future.of_ending {waiting : Waiting} {prompt : String} {reply : Option String}
    {after : Trace} {result : Except VcsError Outcome} {P : Trace → Prop}
    (h : Future waiting (.ask prompt reply :: after) result)
    (hends : ∀ tail stand, Turn waiting (.ask waiting.prompt reply :: tail) stand →
      P tail ∧ ∃ result, stand = .ended result) : P after := by
  generalize ht : Event.ask prompt reply :: after = t at h
  cases h with
  | last hturn =>
    obtain ⟨asked, tail, rfl, -⟩ := hturn.head
    rw [List.cons.injEq, Event.ask.injEq] at ht
    obtain ⟨⟨-, rfl⟩, rfl⟩ := ht
    exact (hends _ _ hturn).1
  | next hturn _ =>
    obtain ⟨asked, tail, rfl, -⟩ := hturn.head
    rw [List.cons_append, List.cons.injEq, Event.ask.injEq] at ht
    obtain ⟨⟨-, rfl⟩, -⟩ := ht
    obtain ⟨-, result, hstand⟩ := hends _ _ hturn
    cases hstand

/-- The message is committed, and one line tells how that came out. -/
def Commits (message : String) (t : Trace) : Prop :=
  ∃ came line, t = [.commit message came, .show line]

/-- A candidate that is not blank is committed when it is accepted. -/
theorem Turn.commits_accepted {candidate line : String} {tail : Trace} {stand : Stand}
    (h : Turn (.menu candidate) (.ask menuPrompt (some line) :: tail) stand)
    (hchoice : Choice.ofAnswer line = .ok .accept) (hblank : Text.isBlankText candidate = false) :
    Commits candidate tail ∧ ∃ result, stand = .ended result := by
  cases h with
  | accept came => exact ⟨⟨came, _, rfl⟩, _, rfl⟩
  | acceptBlank _ hempty =>
    rw [hblank] at hempty
    cases hempty
  | cancel hother | edit hother | regenerate hother _ | invalid hother =>
    rw [hchoice] at hother
    cases hother

/-- A message that is not blank is committed when it is written. -/
theorem Turn.commits_written {candidate line : String} {tail : Trace} {stand : Stand}
    (h : Turn (.editor candidate) (.ask editPrompt (some line) :: tail) stand)
    (hblank : Text.isBlankText line = false) :
    Commits (Text.trim line) tail ∧ ∃ result, stand = .ended result := by
  cases h with
  | replace came => exact ⟨⟨came, _, rfl⟩, _, rfl⟩
  | replaceBlank hempty =>
    rw [hblank] at hempty
    cases hempty

/-- A message that is approved and is not blank is committed next, and the session ends. -/
theorem Conversation.commits_approved {before after : Trace} {message : String}
    {result : Except VcsError Outcome} (h : Conversation (before ++ after) result)
    (happroved : Approved before message) (hblank : Text.isBlankText message = false) :
    Commits message after := by
  cases happroved with
  | @accepted earlier _ line hchoice =>
    rw [List.append_assoc, List.singleton_append] at h
    obtain ⟨waiting, hprompt, hpast, hfuture⟩ := h.split_at_ask rfl
    cases waiting with
    | editor candidate => exact absurd hprompt menuPrompt_ne_editPrompt
    | menu candidate =>
      -- The message on show is the candidate that the session waits with.
      obtain ⟨shown, hshown⟩ := OnShow.presented hpast.awaits
      obtain rfl : message = candidate := presentation_inj hshown
      exact hfuture.of_ending fun _ _ hturn => hturn.commits_accepted hchoice hblank
  | @written earlier choice line hchoice =>
    rw [Text.isBlankText_trim] at hblank
    have hcut : earlier ++ [.ask menuPrompt (some choice), .ask editPrompt (some line)] ++ after =
        earlier ++ [.ask menuPrompt (some choice)] ++ .ask editPrompt (some line) :: after := by
      simp
    obtain ⟨waiting, hprompt, -, hfuture⟩ := h.split_at_ask hcut
    cases waiting with
    | menu candidate => exact absurd hprompt.symm menuPrompt_ne_editPrompt
    | editor candidate => exact hfuture.of_ending fun _ _ hturn => hturn.commits_written hblank

/-! ## Sessions -/

theorem Conversation.committing {t : Trace} {result : Except VcsError Outcome}
    (h : Conversation t result) : Committing t result := by
  rcases h.last_turn with ⟨e, rfl, rfl⟩ | ⟨past, waiting, last, rfl, hpast, hlast⟩
  · exact .never (by simp [Lacks, Event.kind]) (.inr ⟨e, rfl⟩)
  · exact hlast.committing hpast

/-- The commit at the end is the only one that a trace can be cut at. -/
theorem cut_at_commit {before b after : Trace} {message m line : String}
    {came r : Except VcsError Unit} (hquiet : Lacks .commit before)
    (hcut : before ++ [.commit message came, .show line] = b ++ .commit m r :: after) :
    b = before ∧ m = message ∧ r = came ∧ after = [.show line] := by
  obtain ⟨d, rfl, hd⟩ := cut_second (hquiet.not_mem rfl) hcut
  cases d with
  | nil =>
    obtain ⟨⟨rfl, rfl⟩, rfl⟩ : (message = m ∧ came = r) ∧ [.show line] = after := by simpa using hd
    exact ⟨List.append_nil _, rfl, rfl, rfl⟩
  | cons e d =>
    rw [List.cons_append, List.cons.injEq] at hd
    have hmem : Event.commit m r ∈ [.show line] := by rw [hd.2]; simp
    simp at hmem

theorem CommitSafe.of_never {t : Trace} {result : Except VcsError Outcome}
    (hquiet : Lacks .commit t)
    (hresult : result = .ok .cancelled ∨ ∃ e, result = .error e) : CommitSafe t result := by
  have hnot : ∀ message came, .commit message came ∉ t := fun _ _ => hquiet.not_mem rfl
  have hcut : ∀ before message came after, t ≠ before ++ .commit message came :: after := by
    rintro before message came after rfl
    exact hnot message came (by simp)
  constructor
  case atMostOne =>
    rw [hquiet.countP_eq_zero]
    exact Nat.zero_le 1
  case approved =>
    intro before message came after h
    exact absurd h (hcut before message came after)
  case notBlank =>
    intro message came hmem
    exact absurd hmem (hnot message came)
  case final =>
    intro before message came after h
    exact absurd h (hcut before message came after)
  case committed => rcases hresult with rfl | ⟨e, rfl⟩ <;> simp [hnot]
  case commitFailed => rcases hresult with rfl | ⟨e, rfl⟩ <;> simp [hnot]
  case spared => exact fun _ => hquiet
  case exitCode =>
    rintro outcome rfl
    obtain rfl : outcome = .cancelled := by simpa using hresult
    simp [Outcome.exitCode_eq_zero_iff, hnot]

theorem CommitSafe.of_once {before : Trace} {message : String} (came : Except VcsError Unit)
    (line : String) (hquiet : Lacks .commit before)
    (happroved : Approved before message) (hblank : Text.isBlankText message = false) :
    CommitSafe (before ++ [.commit message came, .show line]) (.ok (.ofCommit came)) := by
  have hmem : ∀ m r, .commit m r ∈ before ++ [.commit message came, .show line] ↔
      m = message ∧ r = came := by
    have hnot : ∀ m r, .commit m r ∉ before := fun _ _ => hquiet.not_mem rfl
    intro m r
    simp [hnot]
  have hok : came = .ok () ↔
      ∃ m, .commit m (.ok ()) ∈ before ++ [.commit message came, .show line] := by
    simp [hmem, eq_comm]
  have herror : (∃ e, came = .error e) ↔
      ∃ m e, .commit m (.error e) ∈ before ++ [.commit message came, .show line] := by
    simp [hmem, eq_comm]
  constructor
  case atMostOne =>
    rw [List.countP_append, hquiet.countP_eq_zero]
    exact Nat.le_refl 1
  case approved =>
    intro b m r after h
    obtain ⟨rfl, rfl, -, -⟩ := cut_at_commit hquiet h
    exact happroved
  case notBlank =>
    intro m r h
    obtain ⟨rfl, -⟩ := (hmem m r).mp h
    exact Text.exists_not_blank hblank
  case final =>
    intro b m r after h
    obtain ⟨-, -, -, rfl⟩ := cut_at_commit hquiet h
    exact ⟨line, rfl⟩
  case committed => rw [← hok, Except.ok.injEq, Outcome.ofCommit_eq_committed]
  case commitFailed => rw [← herror, Except.ok.injEq, Outcome.ofCommit_eq_commitFailed]
  case spared =>
    rintro (h | ⟨e, h⟩)
    · cases came <;> simp [Outcome.ofCommit] at h
    · cases h
  case exitCode =>
    intro outcome h
    rw [← hok, ← Except.ok.inj h, Outcome.exitCode_eq_zero_iff, Outcome.ofCommit_eq_committed]

theorem Committing.commitSafe {t : Trace} {result : Except VcsError Outcome}
    (h : Committing t result) : CommitSafe t result := by
  cases h with
  | never hquiet hresult => exact .of_never hquiet hresult
  | once came line hquiet happroved hblank => exact .of_once came line hquiet happroved hblank

/-- Every run of a session keeps to it, whatever the collaborators and the user answer. -/
theorem run_commitSafe {σ : Type} (c : Collaborators σ) (answers : List (Option String)) (s : σ) :
    CommitSafe (run c answers s).trace (run c answers s).result :=
  (run_conversation c answers s).committing.commitSafe

end Session

end Stagehand
