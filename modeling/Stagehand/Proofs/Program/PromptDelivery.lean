import Stagehand.Proofs.Program.SessionAttempts
import Stagehand.Proofs.Session.Freshness
import Stagehand.Proofs.Text.LenientReading
import Stagehand.Proofs.Text.Pieces
/-!
# The staged changes reach the model whole

The bytes that git prints are read as text, put between the opening and the closing of the prompt,
and written as bytes again for the model (`inputFor`). Nothing is trimmed, cut short or altered on
the way: what is UTF-8 stands in the input byte for byte, after an opening that is always the same,
and the input is read back as the prompt (`keepsWhole`). A session first asks for the staged changes
(`Attempted.asks_first`). Just this input goes to the model after every request for them that is
granted (`Attempted.receives_of_granted`), and nothing else calls the model
(`Attempted.granted_of_run`). The main statement is `session_delivers`.
-/

namespace Stagehand.Program.CommitCommand

open Session (Trace Conversation)
open Text.Utf8

/-- What the model is given about the bytes that git has printed. -/
def inputFor (printed : Bytes) : Bytes :=
  encode (Message.promptOpening ++ decodeLossy printed ++ Message.promptClosing)

/-- The attempt asked git for the staged changes, and git ended well. -/
structure Granted (asked : Attempt) (b : Behaviour) : Prop where
  command : asked.command = Git.command {} ["diff", "--cached"]
  launch : asked.launch = .ok b
  ending : b.ending = .exited 0

/-- The attempt runs the model with the input for what git has printed, and that is what its process
reads if it reads its input to the end. -/
structure Receives (settings : ModelSettings) (answered : Attempt) (printed : Bytes) : Prop where
  command : answered.command =
    { program := settings.program, arguments := ["run", settings.model],
      input := .piped (inputFor printed) }
  read : ∀ reader, answered.launch = .ok reader → reader.readsInput = true →
    answered.read? = some (inputFor printed)

/-- The input for the model keeps all of the bytes that git has printed. -/
structure KeepsWhole (printed : Bytes) : Prop where
  /-- Who reads the input as text gets the prompt about the changes. -/
  prompt : decodeLossy (inputFor printed) = Message.prompt (decodeLossy printed)
  /-- Bytes that are a text stand in the input as they are. -/
  verbatim : ∀ text, decode? printed = some text →
    inputFor printed = encode Message.promptOpening ++ printed ++ encode Message.promptClosing
  /-- Two texts never give the same input. -/
  distinct : ∀ text other another, decode? printed = some text → decode? other = some another →
    inputFor other = inputFor printed → other = printed

/-! ## The input -/

theorem inputFor_eq (printed : Bytes) :
    inputFor printed = encode (Message.prompt (decodeLossy printed)) :=
  rfl

theorem inputFor_of_text {printed : Bytes} {text : String} (h : decode? printed = some text) :
    inputFor printed = encode Message.promptOpening ++ printed ++ encode Message.promptClosing := by
  obtain rfl : printed = encode text := decode?_eq_some_iff.mp h
  unfold inputFor
  rw [encode_append, encode_append, decodeLossy_encode]

theorem keepsWhole (printed : Bytes) : KeepsWhole printed where
  prompt := decodeLossy_encode _
  verbatim _ h := inputFor_of_text h
  distinct text other another htext hother hsame := by
    rw [inputFor_of_text htext, inputFor_of_text hother] at hsame
    exact List.append_cancel_left (List.append_cancel_right hsame)

/-! ## The attempts -/

variable {settings : ModelSettings}

theorem receives_of_command {answered : Attempt} {printed : Bytes}
    (h : answered.command = settings.command (Message.prompt (decodeLossy printed))) :
    Receives settings answered printed := by
  have hinput : answered.command.input = .piped (inputFor printed) := by
    rw [h, inputFor_eq]
    rfl
  exact ⟨h, fun _ hstarted hreads => Attempt.read?_of_piped hstarted hreads hinput⟩

section

variable {t : Trace} {result : Except VcsError Outcome}

/-- The first attempt of a session asks for the staged changes. -/
theorem Attempted.asks_first {attempts : List Attempt} (h : Attempted settings t attempts)
    (hcourse : Conversation t result) :
    ∃ asked rest, attempts = asked :: rest ∧
      asked.command = Git.command {} ["diff", "--cached"] := by
  obtain ⟨reply, later, rfl⟩ := hcourse.asks_first
  obtain ⟨asked, rest, rfl, hcommand, -⟩ := (h.of_aside (.inl rfl)).of_diff
  exact ⟨asked, rest, rfl, hcommand⟩

variable {before after : List Attempt}

/-- After a request that is granted the model receives what git has printed. -/
theorem Attempted.receives_of_granted {asked : Attempt} {b : Behaviour}
    (h : Attempted settings t (before ++ asked :: after)) (hcourse : Conversation t result)
    (hgranted : Granted asked b) :
    ∃ answered rest, after = answered :: rest ∧ Receives settings answered b.output := by
  obtain ⟨past, e, later, rfl, -, hrecord, hlater⟩ := h.cut
  have houtcome : Git.outcome "diff" asked.launch = .ok (decodeLossy b.output) :=
    (Git.outcome_eq_ok_iff ..).mpr ⟨b, hgranted.launch, hgranted.ending, rfl⟩
  obtain rfl := hrecord.of_diff hgranted.command
  rw [houtcome] at hcourse
  obtain ⟨reply, rest, rfl⟩ := hcourse.consulted past _ later rfl
  obtain ⟨answered, others, rfl, hanswered⟩ := hlater.of_model
  exact ⟨answered, others, rfl, receives_of_command hanswered⟩

/-- The model is run right after a request that was granted, and it receives what git has printed
then. -/
theorem Attempted.granted_of_run {answered : Attempt}
    (h : Attempted settings t (before ++ answered :: after)) (hcourse : Conversation t result)
    (hrun : answered.command.arguments.head? = some "run") :
    ∃ earlier asked b, before = earlier ++ [asked] ∧ Granted asked b ∧
      Receives settings answered b.output := by
  obtain ⟨past, e, later, rfl, hpast, hrecord, -⟩ := h.cut
  obtain ⟨prompt, rfl, hanswered⟩ := hrecord.of_run hrun
  obtain ⟨⟨first, diff, rfl, rfl⟩, -⟩ := hcourse.split_at_model rfl
  -- What comes right before the call is a diff, so the last attempt before is the one that gave it.
  obtain ⟨earlier, last, rfl, -, hlast⟩ := hpast.of_append
  obtain ⟨asked, rest, rfl, hcommand, hreply, hrest⟩ := hlast.of_diff
  cases hrest
  obtain ⟨b, hlaunch, hending, rfl⟩ := (Git.outcome_eq_ok_iff ..).mp hreply.symm
  exact ⟨earlier, asked, b, rfl, ⟨hcommand, hlaunch, hending⟩, receives_of_command hanswered⟩

end

/-! ## Sessions -/

/-- In every session with the local repository and the local model the staged changes are asked for
first; wherever git grants them the model receives them whole, at once; and the model is run for
nothing else. -/
theorem session_delivers (settings : ModelSettings) (answers : List (Option String)) (host : Host)
    (attempts : List Attempt)
    (hmade : host.made (Session.run (collaborators settings) answers host).world = attempts) :
    (∃ asked rest, attempts = asked :: rest ∧
        asked.command = Git.command {} ["diff", "--cached"]) ∧
      (∀ before asked after b, attempts = before ++ asked :: after → Granted asked b →
        ∃ answered rest, after = answered :: rest ∧ Receives settings answered b.output) ∧
      (∀ before answered after, attempts = before ++ answered :: after →
        answered.command.arguments.head? = some "run" →
        ∃ earlier asked b, before = earlier ++ [asked] ∧ Granted asked b ∧
          Receives settings answered b.output) ∧
      ∀ printed, KeepsWhole printed := by
  have hcourse := Session.run_conversation (collaborators settings) answers host
  have hattempted :=
    attempted_of_performs (Session.run_performs (collaborators settings) answers host)
  rw [hmade] at hattempted
  refine ⟨hattempted.asks_first hcourse, ?_, ?_, keepsWhole⟩
  · rintro before asked after b rfl hgranted
    exact hattempted.receives_of_granted hcourse hgranted
  · rintro before answered after rfl hrun
    exact hattempted.granted_of_run hcourse hrun

/-- Changes with blank ends, the text of the prompt itself, a fence, braces and quotes. -/
def trickyChanges : String :=
  "\n  " ++ Message.promptOpening ++ "+let s = \"\x7b0\x7d\";\r\n\x60\x60\x60 \t\n"

/-- Git prints the tricky changes, and the model reads its input and proposes a message. -/
def withTrickyChanges : Host where
  respond _ c :=
    if c.program = "git" then .ok { output := encode trickyChanges }
    else .ok { readsInput := true, output := encode "Fix\n" }

/-- The attempts of a session in which the user wants a second proposal and takes it. -/
def trickyAttempts : List Attempt :=
  withTrickyChanges.made
    (Session.run (collaborators {}) [some "r", some "a"] withTrickyChanges).world

/-- The changes are asked for first, and the model is run right after each request for them. What it
reads are the changes as they are, between the opening and the closing. -/
theorem withTrickyChanges_delivers :
    trickyAttempts.map (·.command.arguments) =
      [["diff", "--cached"], ["run", "llama3.1:8b"], ["diff", "--cached"], ["run", "llama3.1:8b"],
        ["commit", "-m", "Fix"]] ∧
    (∃ asked answered rest, trickyAttempts = asked :: answered :: rest ∧
      Granted asked { output := encode trickyChanges } ∧
      Receives {} answered (encode trickyChanges)) ∧
    ∀ before answered after, trickyAttempts = before ++ answered :: after →
      answered.command.arguments.head? = some "run" →
      answered.read? = some (encode Message.promptOpening ++ encode trickyChanges ++
        encode Message.promptClosing) := by
  have hgit : ∀ a ∈ trickyAttempts, a.command.program = "git" →
      a.launch = .ok { output := encode trickyChanges } := by decide +kernel
  have hmodel : ∀ a ∈ trickyAttempts, a.command.arguments.head? = some "run" →
      a.launch = .ok { readsInput := true, output := encode "Fix\n" } := by decide +kernel
  obtain ⟨⟨asked, rest, hmade, hcommand⟩, hgoes, hcomes, hkeeps⟩ :=
    session_delivers {} [some "r", some "a"] withTrickyChanges trickyAttempts rfl
  refine ⟨by decide +kernel, ?_, ?_⟩
  · have hlaunch := hgit asked (by simp [hmade]) (by rw [hcommand]; rfl)
    have hgranted : Granted asked { output := encode trickyChanges } := ⟨hcommand, hlaunch, rfl⟩
    obtain ⟨answered, later, rfl, hreceives⟩ := hgoes [] asked rest _ hmade hgranted
    exact ⟨asked, answered, later, hmade, hgranted, hreceives⟩
  · intro before answered after hcut hrun
    obtain ⟨earlier, asked, b, rfl, hgranted, hreceives⟩ := hcomes before answered after hcut hrun
    have hlaunch := hgit asked (by simp [hcut]) (by rw [hgranted.command]; rfl)
    obtain rfl : b = { output := encode trickyChanges } :=
      Except.ok.inj (hgranted.launch.symm.trans hlaunch)
    rw [hreceives.read _ (hmodel answered (by simp [hcut]) hrun) rfl,
      (hkeeps _).verbatim trickyChanges (decode?_encode _)]

end Stagehand.Program.CommitCommand
