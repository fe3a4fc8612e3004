import Stagehand.Program.CommitCommand
import Stagehand.Proofs.Session.Performance
import Stagehand.Proofs.Session.PipedAnswers
import Stagehand.Proofs.System.Attempts
/-!
# The command `gcm` on a pipe

Once its checks are passed the command is the session with the local repository and the local model
on the answers that its standard input holds (`run_refines_session`). What the session tries on the
host can be read off its trace (`tried_of_performs`), and none of it is given the standard input of
the command; and the model, which is not asked to echo, adds nothing to what the session says.
-/

namespace Stagehand.Program.CommitCommand

open Session (Event Trace Performs Answers)

/-- What the session itself says in an event: a line with its newline, or a question with a blank
after it. -/
def spoken : Event → String
  | .show text => text ++ "\n"
  | .ask prompt _ => prompt ++ " "
  | _ => ""

/-- The command that an event has the host try. -/
def commandsOf (settings : ModelSettings) : Event → List Command
  | .diff _ => [Git.command {} ["diff", "--cached"]]
  | .model prompt _ _ => [settings.command prompt]
  | .commit message _ => [Git.command {} ["commit", "-m", message]]
  | .show _ | .ask .. | .complain _ => []

/-- The report of a command with these settings is what the session leads to: its exit code, its
attempts, which are those of its calls, and what it says. No program that is started is given the
standard input of the command. -/
structure Refines (s : Surroundings) (settings : ModelSettings) (report : Report)
    (session : Session.Run (List (Option String)) Host) : Prop where
  exit : report.exit = match session.result with
    | .ok outcome => outcome.exitCode
    | .error _ => Report.failure
  attempts : report.host.attempts = session.world.attempts
  tried : s.host.tried report.host = session.trace.flatMap (commandsOf settings)
  output : report.output = Text.Utf8.encode (String.join (session.trace.map spoken))
  input : ∀ command ∈ s.host.tried report.host, command.input ≠ .shared

/-! ## What a session tries and says -/

variable {settings : ModelSettings} {host host' : Host} {t : Trace}

theorem commandsOf_aside {e : Event} (he : e.kind = .line ∨ e.kind = .ask) :
    commandsOf settings e = [] := by
  cases e with
  | «show» | ask | complain => rfl
  | diff | model | commit => simp [Event.kind] at he

/-- A host on which a trace is performed has tried the commands of its events. -/
theorem tried_of_performs (h : Performs (collaborators settings) host t host') :
    host.tried host' = t.flatMap (commandsOf settings) := by
  apply Host.tried_of_append
  induction h with
  | done => rw [List.flatMap_nil, List.append_nil]
  | aside he _ ih => rw [ih, List.flatMap_cons, commandsOf_aside he, List.nil_append]
  | diff _ ih | model _ ih | commit _ ih =>
    rw [ih, List.flatMap_cons, ← List.append_assoc]
    congr 1
    exact List.map_append

/-- Nothing that a session tries reads the standard input of the command. -/
theorem input_ne_shared {e : Event} {command : Command} (h : command ∈ commandsOf settings e) :
    command.input ≠ .shared := by
  cases e with
  | «show» | ask | complain => cases h
  | diff | model | commit =>
    obtain rfl := List.mem_singleton.mp h
    simp [Git.command, ModelSettings.command]

/-- A model that is not asked to echo does not. -/
theorem echoed_reply (launch : Launch) : (settings.reply false launch).echoed = "" := by
  cases launch <;> rfl

/-- A session writes just what it says. -/
theorem output_of_performs (h : Performs (collaborators settings) host t host') :
    t.output = String.join (t.map spoken) := by
  unfold Trace.output
  congr 1
  induction h with
  | done => rfl
  | @aside e t s s' he _ ih =>
    rw [List.map_cons, List.map_cons, ih]
    cases e with
    | «show» | ask | complain => rfl
    | diff | model | commit => simp [Event.kind] at he
  | @diff t s s' _ ih | @commit message t s s' _ ih =>
    rw [List.map_cons, List.map_cons, ih]
    rfl
  | @model prompt t s s' _ ih =>
    rw [List.map_cons, List.map_cons, ih]
    exact congrArg (· :: t.map spoken) (echoed_reply _)

/-! ## The command -/

theorem run_eq_ofRun {s : Surroundings} {given : Given} {root : String}
    (hread : grammar.read s.arguments = .ok given) (hroot : s.workTree = .ok root)
    (hinstalled : s.installed (CommitCommand.settings given s.environment).program = true) :
    run s = ofRun (Session.runBytes
      (collaborators (CommitCommand.settings given s.environment)) s.input s.host) := by
  unfold run runWith ModelSettings.checkInstalled
  simp only [hread, hroot, hinstalled, if_true]

theorem refines_of_agrees {s : Surroundings} {bytes : Session.Run Bytes Host}
    {session : Session.Run (List (Option String)) Host} (h : bytes.Agrees session)
    (hperforms : Performs (collaborators settings) s.host session.trace session.world) :
    Refines s settings (ofRun bytes) session := by
  have hworld : (ofRun bytes).host = session.world := by
    rw [← h.world]
    unfold ofRun
    cases bytes.result <;> rfl
  have houtput : (ofRun bytes).output = Text.Utf8.encode session.trace.output := by
    rw [← h.trace]
    unfold ofRun
    cases bytes.result <;> rfl
  constructor
  case exit =>
    rw [← h.result]
    unfold ofRun
    cases bytes.result <;> rfl
  case attempts => rw [hworld]
  case tried => rw [hworld, tried_of_performs hperforms]
  case output => rw [houtput, output_of_performs hperforms]
  case input =>
    rw [hworld, tried_of_performs hperforms]
    intro command hmem
    obtain ⟨e, -, hcommand⟩ := List.mem_flatMap.mp hmem
    exact input_ne_shared hcommand

/-- In a work tree and with the model installed the command is the session on the answers that its
standard input holds, and there are such answers whatever the bytes are. -/
theorem run_refines_session (s : Surroundings) (given : Given) (root : String)
    (hread : grammar.read s.arguments = .ok given) (hroot : s.workTree = .ok root)
    (hinstalled : s.installed (CommitCommand.settings given s.environment).program = true) :
    (∃ answers, Answers s.input answers) ∧
    ∀ answers, Answers s.input answers →
      Refines s (CommitCommand.settings given s.environment) (run s)
        (Session.run (collaborators (CommitCommand.settings given s.environment))
          (answers.map some) s.host) := by
  refine ⟨Session.exists_answers s.input, ?_⟩
  intro answers hanswers
  rw [run_eq_ofRun hread hroot hinstalled]
  exact refines_of_agrees (Session.runBytes_agrees _ hanswers s.host)
    (Session.run_performs _ _ s.host)

/-- The command with an invalid choice, the choice to edit, and then a line that is no text. -/
def withBrokenLine : Surroundings where
  arguments := ["--model", "tiny"]
  environment _ := none
  input := Text.Utf8.encode "x\r\ne\n" ++ [0xFF, 0x0A] ++ Text.Utf8.encode "a\n"
  workTree := .ok "/work/"
  installed program := program == "ollama"
  isDirectory _ := true
  host := { respond := fun _ _ => .ok {} }

/-- What follows the line that is no text is not read. -/
theorem withBrokenLine_refines :
    grammar.read withBrokenLine.arguments = .ok { values := [("model", "tiny")] } ∧
      withBrokenLine.workTree = .ok "/work/" ∧
      withBrokenLine.installed "ollama" = true ∧
      Answers withBrokenLine.input ["x\r\n", "e\n"] ∧
      Refines withBrokenLine { model := "tiny" } (run withBrokenLine)
        (Session.run (collaborators { model := "tiny" }) [some "x\r\n", some "e\n"]
          withBrokenLine.host) := by
  have hanswers : Answers withBrokenLine.input ["x\r\n", "e\n"] := by
    refine ⟨[[0xFF, 0x0A], Text.Utf8.encode "a\n"], ?_, ?_⟩
    · have hlast := @Text.Cut.line (Text.Utf8.encode "a") [] [] (by decide) .none
      have hbroken := @Text.Cut.line [0xFF] _ _ (by decide) hlast
      have hedit := @Text.Cut.line (Text.Utf8.encode "e") _ _ (by decide) hbroken
      exact @Text.Cut.line (Text.Utf8.encode "x\r") _ _ (by decide) hedit
    · rintro _ ⟨rfl⟩ s hs
      have hnone : Text.Utf8.decode? [0xFF, 0x0A] = none := by decide
      rw [Text.Utf8.decode?_eq_some_iff.mpr hs] at hnone
      cases hnone
  obtain ⟨-, hrefines⟩ := run_refines_session withBrokenLine { values := [("model", "tiny")] }
    "/work/" rfl rfl rfl
  exact ⟨rfl, rfl, rfl, hanswers, hrefines _ hanswers⟩

end Stagehand.Program.CommitCommand
