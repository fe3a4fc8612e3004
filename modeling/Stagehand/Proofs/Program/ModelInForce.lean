import Stagehand.Proofs.Model.Echo
import Stagehand.Proofs.Model.TidySettings
import Stagehand.Proofs.Program.CommitStatus
import Stagehand.Proofs.Program.OptionReading
/-!
# The model in force

The settings that `gcm` runs with are those of its flags, each as it was given, and otherwise those
of the environment, which are normalised. Git apart, the command starts the program of the settings
and nothing else, with the arguments that an echo of the model shows. The main statement is
`settings_resolved`.
-/

namespace Stagehand.Program.CommitCommand

open ModelSettings (Normalised ofVariables)
open Text.Decimal (Numeral max64)

/-- The runner of the settings starts one program, and an echo begins with the program and the
arguments that it is started with. -/
def ShowsCommand (settings : ModelSettings) : Prop :=
  ∀ prompt host, ∃ (c : Command) (rest : String), c.program = settings.program ∧
    c.arguments = ["run", settings.model] ∧
    (∀ echo, host.tried (settings.runner.run prompt echo host).2 = [c]) ∧
    (settings.runner.run prompt true host).1.echoed =
      "Running LLM: " ++ Text.quotedList (c.program :: c.arguments) ++ "\n" ++ rest

/-- The command runs with the settings: flags before the environment, and one by one. -/
structure InForce (s : Surroundings) (settings : ModelSettings) : Prop where
  program : settings.program = (ofVariables s.environment).program
  model : ∀ m, Gives "model" m s.arguments → settings.model = m
  modelElse : (∀ m, ¬ Gives "model" m s.arguments) →
    settings.model = (ofVariables s.environment).model
  limit : ∀ t, Gives "timeout" t s.arguments → ∃ n, Numeral t n ∧ settings.limit = .ofSeconds n
  limitElse : (∀ t, ¬ Gives "timeout" t s.arguments) →
    settings.limit = (ofVariables s.environment).limit
  /-- There is always a second to answer in. -/
  second : 1 ≤ settings.limit.seconds
  /-- The session is held with the runner of the settings. -/
  session : Ready s settings →
    run s = ofRun (Session.runBytes (collaborators settings) s.input s.host)
  /-- Nothing is started but git and the program of the settings. -/
  started : ∀ c ∈ s.host.tried (run s).host, c.program = "git" ∨
    c.program = settings.program ∧ c.arguments = ["run", settings.model]
  shown : ShowsCommand settings

/-- How the settings come from an environment and from the flags beside it. -/
structure Resolved (environment : Variables) : Prop where
  normalised : Normalised environment
  /-- Any model can be chosen by its flag, and any limit of 64 bits that is not zero. -/
  choices : ∀ m t n, Numeral t n → 1 ≤ n → n ≤ max64 →
    ∃ given, grammar.read ["--model=" ++ m, "--timeout=" ++ t] = .ok given
  inForce : ∀ s given, s.environment = environment → grammar.read s.arguments = .ok given →
    InForce s (settings given environment)

/-! ## Flags -/

/-- The setting that names the model. -/
def modelSetting : Setting := ⟨"model", "MODEL", .any⟩

/-- The setting that limits the time. -/
def limitSetting : Setting := ⟨"timeout", "SECS", .positive⟩

theorem mem_settings_iff (s : Setting) :
    s ∈ grammar.settings ↔ s = modelSetting ∨ s = limitSetting := by
  simp [grammar, modelSetting, limitSetting]

theorem grammar_distinct : grammar.Distinct := by
  constructor <;>
  · intro s hs
    rcases (mem_settings_iff s).mp hs with rfl | rfl <;> decide

/-- The limit has to be a number of seconds. -/
theorem check_limitSetting_iff {t : String} :
    limitSetting.check t = .ok () ↔ ∃ n, ModelSettings.seconds? t = some n := by
  unfold Setting.check limitSetting ModelSettings.seconds?
  rcases Text.Decimal.read max64 t with fault | _ | n <;> simp

/-- Each of the settings comes from its flag, or else from the environment. -/
theorem settings_eq (given : Given) (environment : Variables) :
    settings given environment =
      { program := (ofVariables environment).program
        model := (given.value? "model").getD (ofVariables environment).model
        limit :=
          (((given.value? "timeout").bind ModelSettings.seconds?).map Duration.ofSeconds).getD
            (ofVariables environment).limit } := by
  unfold settings
  cases given.value? "model" <;>
    cases (given.value? "timeout").bind ModelSettings.seconds? <;> rfl

theorem limit_of_flag {given : Given} {t : String} {n : Nat} (h : given.value? "timeout" = some t)
    (hn : ModelSettings.seconds? t = some n) (environment : Variables) :
    (settings given environment).limit = .ofSeconds n := by
  rw [settings_eq, h, Option.bind_some, hn]
  rfl

theorem limit_of_no_flag {given : Given} (h : given.value? "timeout" = none)
    (environment : Variables) :
    (settings given environment).limit = (ofVariables environment).limit := by
  rw [settings_eq, h]
  rfl

/-! ## Processes -/

theorem showsCommand (settings : ModelSettings) : ShowsCommand settings := by
  intro prompt host
  obtain ⟨rest, hrest⟩ := settings.exists_echoed (host.launch (settings.command prompt))
  refine ⟨settings.command prompt, "\n---\n\n" ++ rest, rfl, rfl, ?_, ?_⟩
  · intro echo
    exact Host.tried_of_append List.map_append
  · have hechoed : (settings.runner.run prompt true host).1.echoed = settings.header ++ rest :=
      hrest
    have hrule : "\n\n---\n\n" = "\n" ++ "\n---\n\n" := rfl
    rw [hechoed, ModelSettings.header, hrule]
    simp only [String.append_assoc]
    rfl

/-- A session has the host start git, or the program of the settings. -/
theorem commandsOf_cases {settings : ModelSettings} {e : Session.Event} {c : Command}
    (h : c ∈ commandsOf settings e) : c.program = "git" ∨
      c.program = settings.program ∧ c.arguments = ["run", settings.model] := by
  cases e with
  | «show» | ask | complain => cases h
  | diff | commit =>
    obtain rfl := List.mem_singleton.mp h
    exact .inl rfl
  | model =>
    obtain rfl := List.mem_singleton.mp h
    exact .inr ⟨rfl, rfl⟩

section Run

variable {s : Surroundings} {given : Given}

theorem tried_of_run (hread : grammar.read s.arguments = .ok given) :
    ∀ c ∈ s.host.tried (run s).host, c.program = "git" ∨
      c.program = (CommitCommand.settings given s.environment).program ∧
        c.arguments = ["run", (CommitCommand.settings given s.environment).model] := by
  have hrefused {line : String} (h : Refused s line) : s.host.tried (run s).host = [] :=
    congrArg (List.map Attempt.command) h.attempts
  cases hroot : s.workTree with
  | error e =>
    rw [hrefused (refused_without_workTree hread hroot)]
    exact nofun
  | ok root =>
    cases hinstalled : s.installed (CommitCommand.settings given s.environment).program with
    | false =>
      rw [hrefused (refused_without_runner hread hroot hinstalled)]
      exact nofun
    | true =>
      obtain ⟨answers, hanswers⟩ := Session.exists_answers s.input
      have hrefines := refines_of_agrees (Session.runBytes_agrees
        (collaborators (CommitCommand.settings given s.environment)) hanswers s.host)
        (Session.run_performs _ _ s.host)
      rw [run_eq_ofRun hread hroot hinstalled, hrefines.tried]
      intro c hc
      obtain ⟨e, -, hcommand⟩ := List.mem_flatMap.mp hc
      exact commandsOf_cases hcommand

theorem inForce (hread : grammar.read s.arguments = .ok given) :
    InForce s (CommitCommand.settings given s.environment) := by
  have hmodel := (mem_settings_iff modelSetting).mpr (.inl rfl)
  have hlimit := (mem_settings_iff limitSetting).mpr (.inr rfl)
  -- A limit that is given has passed its check, so it is a number of seconds.
  have hnamed {t : String} (h : Gives "timeout" t s.arguments) :
      ∃ n, ModelSettings.seconds? t = some n ∧
        (CommitCommand.settings given s.environment).limit = .ofSeconds n := by
    have hvalue := (value?_eq_some_iff hread grammar_distinct hlimit).mpr h
    obtain ⟨n, hn⟩ := check_limitSetting_iff.mp
      (check_of_value? hread grammar_distinct hlimit hvalue)
    exact ⟨n, hn, limit_of_flag hvalue hn _⟩
  have hunnamed (h : ∀ t, ¬ Gives "timeout" t s.arguments) :
      (CommitCommand.settings given s.environment).limit = (ofVariables s.environment).limit :=
    limit_of_no_flag ((value?_eq_none_iff hread grammar_distinct hlimit).mpr h) _
  constructor
  case program => rw [settings_eq]
  case model =>
    intro m h
    have hvalue : given.value? "model" = some m :=
      (value?_eq_some_iff hread grammar_distinct hmodel).mpr h
    rw [settings_eq, hvalue]
    rfl
  case modelElse =>
    intro h
    have hvalue : given.value? "model" = none :=
      (value?_eq_none_iff hread grammar_distinct hmodel).mpr h
    rw [settings_eq, hvalue]
    rfl
  case limit =>
    intro t h
    obtain ⟨n, hn, hlimit⟩ := hnamed h
    exact ⟨n, (ModelSettings.seconds?_eq_some_iff.mp hn).1, hlimit⟩
  case limitElse => exact hunnamed
  case second =>
    by_cases h : ∃ t, Gives "timeout" t s.arguments
    · obtain ⟨t, h⟩ := h
      obtain ⟨n, hn, hlimit⟩ := hnamed h
      rw [hlimit, Duration.seconds_ofSeconds]
      exact (ModelSettings.seconds?_eq_some_iff.mp hn).2.1
    · rw [hunnamed (not_exists.mp h)]
      exact (ModelSettings.normalised s.environment).limit
  case session =>
    rintro ⟨⟨root, hroot⟩, hinstalled⟩
    exact run_eq_ofRun hread hroot hinstalled
  case started => exact tried_of_run hread
  case shown => exact showsCommand _

end Run

/-- The settings are resolved for every environment. -/
theorem settings_resolved (environment : Variables) : Resolved environment where
  normalised := ModelSettings.normalised environment
  choices m t n hnumeral hlow hhigh := by
    have hcheck : limitSetting.check t = .ok () :=
      check_limitSetting_iff.mpr ⟨n, ModelSettings.seconds?_eq_some_iff.mpr ⟨hnumeral, hlow, hhigh⟩⟩
    have hnames : ["model", "timeout"].Nodup := by decide
    refine exists_read grammar_distinct [(modelSetting, m), (limitSetting, t)] ?_ hnames
    rw [List.forall_mem_cons, List.forall_mem_singleton]
    exact ⟨⟨(mem_settings_iff _).mpr (.inl rfl), rfl⟩, (mem_settings_iff _).mpr (.inr rfl), hcheck⟩
  inForce s given henvironment hread := by
    subst henvironment
    exact inForce hread

end Stagehand.Program.CommitCommand
