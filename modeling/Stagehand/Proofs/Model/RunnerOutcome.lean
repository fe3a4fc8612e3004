import Stagehand.Proofs.Model.Exchange
import Stagehand.Proofs.Model.LineReading
import Stagehand.Session.Proposal
/-!
# The outcome of running the model

What the runner gives for a prompt is decided by how the process ends, and nothing else shows in it:
neither what a failed process wrote to standard output, nor how much a process read of the prompt.
That holds however the talk to the process goes, as the exchange over its pipes comes to this
outcome in every order of its moves. The main statement is `runner_determined`.
-/

namespace Stagehand.ModelSettings

open Text.Utf8

/-- What the runner gives for a prompt. -/
def resultOn (settings : ModelSettings) (prompt : String) (echo : Bool) (host : Host) :
    Except ModelError String :=
  (settings.runner.run prompt echo host).1.result

/-- The text that the runner is asked for with a prompt. -/
def textOn (settings : ModelSettings) (prompt : String) (echo : Bool) (host : Host) : String :=
  (Session.consult settings.runner prompt echo host).1

/-- The process exits with zero within the limit. -/
def Succeeds (settings : ModelSettings) (b : Behaviour) : Prop :=
  b.linger < settings.limit.milliseconds ∧ b.ending = .exited 0

/-- The runner gives this result for a prompt, and this text. -/
structure Gives (settings : ModelSettings) (prompt : String) (echo : Bool) (host : Host)
    (result : Except ModelError String) (text : String) : Prop where
  result : settings.resultOn prompt echo host = result
  text : settings.textOn prompt echo host = text

/-- How the process ends determines what the runner gives. -/
structure Determined (settings : ModelSettings) (prompt : String) (echo : Bool) (host : Host) :
    Prop where
  /-- There is no process. -/
  refused : ∀ cause, host.launch (settings.command prompt) = .error cause →
    settings.Gives prompt echo host (.error (.spawnFailed cause)) ""
  answered : ∀ b, host.launch (settings.command prompt) = .ok b →
    b.linger < settings.limit.milliseconds → b.ending = .exited 0 →
    settings.Gives prompt echo host (.ok (decodeLossy b.output)) (Text.trim (decodeLossy b.output))
  failed : ∀ b, host.launch (settings.command prompt) = .ok b →
    b.linger < settings.limit.milliseconds → ∀ code, b.ending = .exited code → code ≠ 0 →
    settings.Gives prompt echo host
      (.error (.nonZeroExit (some code.toNat) (Text.trim (decodeLossy b.errors)))) ""
  killed : ∀ b, host.launch (settings.command prompt) = .ok b →
    b.linger < settings.limit.milliseconds → ∀ signal, b.ending = .killed signal →
    settings.Gives prompt echo host
      (.error (.nonZeroExit none (Text.trim (decodeLossy b.errors)))) ""
  /-- The process outlives the limit, whichever way it would have ended. -/
  timedOut : ∀ b, host.launch (settings.command prompt) = .ok b →
    settings.limit.milliseconds ≤ b.linger →
    settings.Gives prompt echo host (.error (.timeout (settings.limit.milliseconds / 1000))) ""
  /-- What a process wrote to standard output is kept back unless it succeeds. -/
  confined : ∀ b, host.launch (settings.command prompt) = .ok b → ¬ settings.Succeeds b →
    ∀ other output, other.launch (settings.command prompt) = .ok { b with output } →
      settings.resultOn prompt echo other = settings.resultOn prompt echo host
  /-- It makes no difference whether the process reads the prompt. -/
  inputBlind : ∀ b, host.launch (settings.command prompt) = .ok b →
    ∀ other readsInput, other.launch (settings.command prompt) = .ok { b with readsInput } →
      settings.resultOn prompt echo other = settings.resultOn prompt echo host
  /-- Nor how much of it, and when, nor in which order the tasks that talk to it take turns. -/
  exchanged : ∀ b, host.launch (settings.command prompt) = .ok b → (∃ script, Plays script b) ∧
    ∀ room script, 0 < room → Plays script b →
      ComesTo settings b room (.opening prompt script) (settings.resultOn prompt echo host)
        (settings.echoOf b)

/-! ## Outcomes -/

section Outcomes

variable {settings : ModelSettings} {b : Behaviour}

theorem outcome_of_failure (htime : b.linger < settings.limit.milliseconds)
    (hending : b.ending ≠ .exited 0) :
    settings.outcome b =
      .error (.nonZeroExit b.ending.code? (Text.trim (decodeLossy b.errors))) := by
  have hbad : b.ending.succeeded = false :=
    Bool.eq_false_iff.mpr (mt b.ending.succeeded_iff.mp hending)
  unfold outcome
  rw [outlives_eq_false_iff.mpr htime, hbad]
  rfl

theorem outcome_of_late (htime : settings.limit.milliseconds ≤ b.linger) :
    settings.outcome b = .error (.timeout (settings.limit.milliseconds / 1000)) := by
  unfold outcome
  rw [outlives_eq_true_iff.mpr htime]
  rfl

/-- The output shows in the outcome of a success alone. -/
theorem outcome_of_output (h : ¬ settings.Succeeds b) (output : Bytes) :
    settings.outcome { b with output } = settings.outcome b := by
  by_cases htime : b.linger < settings.limit.milliseconds
  · have hending : b.ending ≠ .exited 0 := fun hgood => h ⟨htime, hgood⟩
    rw [outcome_of_failure htime hending]
    exact outcome_of_failure htime hending
  · rw [outcome_of_late (Nat.not_lt.mp htime)]
    exact outcome_of_late (Nat.not_lt.mp htime)

variable {prompt : String} {echo : Bool} {host : Host}

theorem Gives.of_started (hstart : host.launch (settings.command prompt) = .ok b)
    {result : Except ModelError String} (houtcome : settings.outcome b = result) :
    settings.Gives prompt echo host result (Session.replyText result) := by
  have hresult : (settings.runner.run prompt echo host).1.result = result :=
    (run_result hstart echo).trans houtcome
  exact ⟨hresult, congrArg Session.replyText hresult⟩

theorem resultOn_of_started (hstart : host.launch (settings.command prompt) = .ok b) :
    settings.resultOn prompt echo host = settings.outcome b :=
  run_result hstart echo

end Outcomes

/-! ## Running -/

/-- What the runner gives is determined by how the process ends, for every prompt and wherever the
program is started. -/
theorem runner_determined (settings : ModelSettings) (prompt : String) (echo : Bool) (host : Host) :
    Determined settings prompt echo host := by
  constructor
  case refused =>
    intro cause hstart
    have hresult : (settings.runner.run prompt echo host).1.result =
        .error (.spawnFailed cause) := by
      unfold runner
      simp only [Host.start_fst, hstart]
      rfl
    exact ⟨hresult, congrArg Session.replyText hresult⟩
  case answered =>
    intro b hstart htime hending
    exact .of_started hstart (outcome_of_success htime hending)
  case failed =>
    intro b hstart htime code hending hcode
    have hbad : b.ending ≠ .exited 0 := by
      rw [hending]
      simpa using hcode
    have houtcome := outcome_of_failure htime hbad
    rw [hending] at houtcome
    exact .of_started hstart houtcome
  case killed =>
    intro b hstart htime signal hending
    have hbad : b.ending ≠ .exited 0 := by
      rw [hending]
      nofun
    have houtcome := outcome_of_failure htime hbad
    rw [hending] at houtcome
    exact .of_started hstart houtcome
  case timedOut =>
    intro b hstart htime
    exact .of_started hstart (outcome_of_late htime)
  case confined =>
    intro b hstart hfailed other output hother
    rw [resultOn_of_started hstart, resultOn_of_started hother, outcome_of_output hfailed]
  case inputBlind =>
    intro b hstart other readsInput hother
    rw [resultOn_of_started hstart, resultOn_of_started hother]
    rfl
  case exchanged =>
    intro b hstart
    refine ⟨⟨b.script, b.plays_script⟩, ?_⟩
    intro room script hroom hplays
    rw [resultOn_of_started hstart]
    exact comesTo_outcome settings hroom hplays prompt

end Stagehand.ModelSettings
