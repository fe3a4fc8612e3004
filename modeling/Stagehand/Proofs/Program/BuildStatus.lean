import Stagehand.Program.BuildCommand
import Stagehand.Proofs.Container.BuildOutcome
import Stagehand.Proofs.Container.Removal
/-!
# The exit status of a build

An ordinary run of `build-driver` exits with zero exactly when the build went well. A stage that
ended badly gives its own status, and whatever else went wrong gives one; what comes of the removal
of the container makes no difference. The main statement is `run_truthful`.
-/

namespace Stagehand.Program.BuildCommand

open Docker

/-- There were an engine and sources, and the build went well. -/
def Succeeds (s : Surroundings) (settings : BuildSettings) : Prop :=
  s.installed settings.engine = true ∧ s.isDirectory settings.source = true ∧
    WentWell ⟨settings.engine⟩ settings (s.host.made (run s).host)

/-- There was no engine or no source directory, or the build was halted. -/
def Blocked (s : Surroundings) (settings : BuildSettings) : Prop :=
  s.installed settings.engine = false ∨ s.isDirectory settings.source = false ∨
    Halted ⟨settings.engine⟩ settings (s.host.made (run s).host)

/-- The exit status of the command tells how the build with the settings turned out. -/
structure Truthful (s : Surroundings) (settings : BuildSettings) : Prop where
  /-- Zero says that the build went well. -/
  zero : (run s).exit = 0 ↔ Succeeds s settings
  /-- A stage that reported a failure gives its exit code. -/
  exited : ∀ a ∈ s.host.made (run s).host, IsStage ⟨settings.engine⟩ settings a →
    ∀ code, a.EndedWith (.exited code) → code ≠ 0 → (run s).exit = code
  /-- A stage that a signal ended gives 128 and the number of the signal. -/
  killed : ∀ a ∈ s.host.made (run s).host, IsStage ⟨settings.engine⟩ settings a →
    ∀ signal, a.EndedWith (.killed signal) → (run s).exit.toNat = 128 + signal.number
  /-- Everything else that goes wrong gives one. -/
  blocked : Blocked s settings → (run s).exit = 1
  /-- And there is nothing else. -/
  classes : Succeeds s settings ∨
    (∃ a ∈ s.host.made (run s).host, IsStage ⟨settings.engine⟩ settings a ∧
      ∃ ending, a.EndedWith ending ∧ ending ≠ .exited 0) ∨
    Blocked s settings
  /-- What comes of the removal makes no difference. -/
  removal : ∀ other, SameButRemovals ⟨settings.engine⟩ s.host other →
    (run { s with host := other }).exit = (run s).exit

/-! ## Exit codes -/

/-- A code is not taken for zero because it does not fit. -/
theorem exitCode_eq_zero_iff (code : Int) : exitCode code = 0 ↔ code = 0 := by
  unfold exitCode
  rw [← UInt8.toNat_inj]
  split_ifs with hfits
  · simp only [UInt8.toNat_ofNat', UInt8.toNat_zero]
    omega
  · have hne : code ≠ 0 := by omega
    simp [hne]

/-- The status of a process always fits. -/
theorem toNat_exitCode_status (ending : Ending) :
    ((exitCode ending.status).toNat : Int) = ending.status := by
  have hfits : 0 ≤ ending.status ∧ ending.status ≤ 255 := by
    cases ending with
    | exited code =>
      have hlt := code.toNat_lt
      simp only [Ending.status]
      omega
    | killed signal =>
      have hle := signal.le_64
      simp only [Ending.status]
      omega
  unfold exitCode
  rw [if_pos hfits, UInt8.toNat_ofNat']
  omega

/-- The exit code for the result of a build. -/
def exitOf : Except BuildError Int → UInt8
  | .ok code => exitCode code
  | .error _ => Report.failure

theorem exitOf_eq_zero_iff (result : Except BuildError Int) :
    exitOf result = 0 ↔ result = .ok 0 := by
  cases result with
  | error e => simp [exitOf, Report.failure]
  | ok code => rw [exitOf, exitCode_eq_zero_iff, Except.ok.injEq]

theorem exit_ofRun (r : Build.Run Host) : (ofRun r).exit = exitOf r.result := by
  unfold ofRun
  cases r.result <;> rfl

theorem host_ofRun (r : Build.Run Host) : (ofRun r).host = r.world := by
  unfold ofRun
  cases r.result <;> rfl

/-! ## The command -/

section Run

variable {s : Surroundings} {settings : BuildSettings}

theorem runWith_of_installed (h : s.installed settings.engine = true) :
    runWith settings s =
      ofRun (Build.run (Docker.mk settings.engine).engine settings
        (s.isDirectory settings.source) s.host) := by
  unfold runWith checkInstalled
  simp only [h, if_true]

theorem runWith_of_not_installed (h : s.installed settings.engine = false) :
    (runWith settings s).exit = 1 ∧ (runWith settings s).host = s.host := by
  unfold runWith checkInstalled
  simp only [h, Bool.false_eq_true, if_false]
  exact ⟨rfl, rfl⟩

/-- The command exits with one and attempts nothing, or it is a build in a container. -/
theorem runWith_cases (s : Surroundings) (settings : BuildSettings) :
    ((s.installed settings.engine = false ∨ s.isDirectory settings.source = false) ∧
      (runWith settings s).exit = 1 ∧ s.host.made (runWith settings s).host = []) ∨
    (s.installed settings.engine = true ∧ s.isDirectory settings.source = true ∧
      ∃ result, Built ⟨settings.engine⟩ settings (s.host.made (runWith settings s).host) result ∧
        (runWith settings s).exit = exitOf result) := by
  cases hinstalled : s.installed settings.engine with
  | false =>
    obtain ⟨hexit, hhost⟩ := runWith_of_not_installed hinstalled
    refine .inl ⟨.inl rfl, hexit, ?_⟩
    rw [hhost]
    exact Host.made_of_append (List.append_nil _).symm
  | true =>
    rw [runWith_of_installed hinstalled, exit_ofRun, host_ofRun]
    cases hsource : s.isDirectory settings.source with
    | false => exact .inl ⟨.inr rfl, rfl, Host.made_of_append (List.append_nil _).symm⟩
    | true =>
      obtain ⟨attempts, hattempts, hbuilt⟩ := run_built ⟨settings.engine⟩ settings s.host
      rw [Host.made_of_append hattempts]
      exact .inr ⟨rfl, rfl, _, hbuilt, rfl⟩

/-- What comes of removals does not show in the exit code. -/
theorem exit_of_sameButRemovals {other : Host}
    (h : SameButRemovals ⟨settings.engine⟩ s.host other) :
    (runWith settings { s with host := other }).exit = (runWith settings s).exit := by
  cases hinstalled : s.installed settings.engine with
  | false =>
    rw [(runWith_of_not_installed hinstalled).1]
    exact (@runWith_of_not_installed { s with host := other } settings hinstalled).1
  | true =>
    rw [runWith_of_installed hinstalled,
      @runWith_of_installed { s with host := other } settings hinstalled, exit_ofRun, exit_ofRun]
    exact congrArg exitOf (h.run_alike settings (s.isDirectory settings.source)).result

theorem truthful_of_unprepared
    (hmissing : s.installed settings.engine = false ∨ s.isDirectory settings.source = false)
    (hexit : (run s).exit = 1) (hmade : s.host.made (run s).host = [])
    (hremoval : ∀ other, SameButRemovals ⟨settings.engine⟩ s.host other →
      (run { s with host := other }).exit = (run s).exit) : Truthful s settings := by
  have hblocked : Blocked s settings := by
    obtain hengine | hsource := hmissing
    · exact .inl hengine
    · exact .inr (.inl hsource)
  have hnot : ¬ Succeeds s settings := by
    rintro ⟨hengine, hsource, -⟩
    simp [hengine, hsource] at hmissing
  constructor
  case zero =>
    rw [hexit]
    exact ⟨fun hzero => absurd hzero (by decide), fun hgood => absurd hgood hnot⟩
  case exited | killed =>
    intro a ha
    rw [hmade] at ha
    cases ha
  case blocked => exact fun _ => hexit
  case classes => exact .inr (.inr hblocked)
  case removal => exact hremoval

theorem truthful_of_built {result : Except BuildError Int}
    (hinstalled : s.installed settings.engine = true)
    (hsource : s.isDirectory settings.source = true)
    (hbuilt : Built ⟨settings.engine⟩ settings (s.host.made (run s).host) result)
    (hexit : (run s).exit = exitOf result)
    (hremoval : ∀ other, SameButRemovals ⟨settings.engine⟩ s.host other →
      (run { s with host := other }).exit = (run s).exit) : Truthful s settings := by
  have hbad {a : Attempt} {ending : Ending} (ha : a ∈ s.host.made (run s).host)
      (hstage : IsStage ⟨settings.engine⟩ settings a) (hended : a.EndedWith ending)
      (hne : ending ≠ .exited 0) : ((run s).exit.toNat : Int) = ending.status := by
    rw [hexit, hbuilt.of_bad_stage ha hstage hended hne]
    exact toNat_exitCode_status ending
  constructor
  case zero =>
    rw [hexit, exitOf_eq_zero_iff, hbuilt.eq_zero_iff]
    exact ⟨fun hwent => ⟨hinstalled, hsource, hwent⟩, fun hgood => hgood.2.2⟩
  case exited =>
    intro a ha hstage code hended hne
    have hstatus := hbad ha hstage hended (by simpa using hne)
    rw [← UInt8.toNat_inj]
    exact Int.ofNat_inj.mp hstatus
  case killed =>
    intro a ha hstage signal hended
    have hstatus := hbad ha hstage hended nofun
    simp only [Ending.status] at hstatus
    omega
  case blocked =>
    rintro (hengine | hnone | hhalted)
    · simp [hinstalled] at hengine
    · simp [hsource] at hnone
    · rw [hexit]
      cases hresult : result with
      | error e => rfl
      | ok code => exact absurd hresult (hbuilt.not_ok_of_halted hhalted code)
  case classes =>
    obtain hwent | hstage | hhalted := hbuilt.classes
    · exact .inl ⟨hinstalled, hsource, hwent⟩
    · exact .inr (.inl hstage)
    · exact .inr (.inr (.inr (.inr hhalted)))
  case removal => exact hremoval

end Run

/-- The exit status of every ordinary run is truthful. -/
theorem run_truthful (s : Surroundings) (given : Given) (version : String)
    (hread : grammar.read s.arguments = .ok given)
    (hversion : versionAsked given s.environment = .ok version) :
    Truthful s (settings given version) := by
  have hrun (host : Host) : run { s with host } =
      runWith (settings given version) { s with host } := by
    unfold run
    simp only [hread, hversion]
  have hself : run s = runWith (settings given version) s := hrun s.host
  have hremoval : ∀ other, SameButRemovals ⟨(settings given version).engine⟩ s.host other →
      (run { s with host := other }).exit = (run s).exit := by
    intro other hsame
    rw [hrun other, hself]
    exact exit_of_sameButRemovals hsame
  have hcases := runWith_cases s (settings given version)
  rw [← hself] at hcases
  obtain ⟨hmissing, hexit, hmade⟩ | ⟨hinstalled, hsource, result, hbuilt, hexit⟩ := hcases
  · exact truthful_of_unprepared hmissing hexit hmade hremoval
  · exact truthful_of_built hinstalled hsource hbuilt hexit hremoval

/-- A build with `podman`, whose tests are killed and whose container cannot be removed. -/
def withKilledTests : Surroundings where
  arguments := ["--engine", "podman"]
  environment _ := none
  input := []
  workTree := .ok "/work/"
  installed program := program == "podman"
  isDirectory path := path == "."
  host := {
    respond := fun _ c =>
      if c.arguments.contains "test" then .ok { ending := .killed ⟨9, by decide, by decide⟩ }
      else if c.arguments.head? = some "rm" then .error .noSuchEntry
      else .ok { output := Text.Utf8.encode "c0ffee\n" } }

theorem withKilledTests_truthful :
    grammar.read withKilledTests.arguments = .ok { values := [("engine", "podman")] } ∧
      versionAsked { values := [("engine", "podman")] } withKilledTests.environment =
        .ok "9.0.300" ∧
      Truthful withKilledTests (.of "podman" "9.0.300" ".") ∧ (run withKilledTests).exit = 137 := by
  have hread : grammar.read withKilledTests.arguments = .ok { values := [("engine", "podman")] } :=
    rfl
  have hversion : versionAsked { values := [("engine", "podman")] } withKilledTests.environment =
      .ok "9.0.300" := rfl
  have htruthful := run_truthful withKilledTests { values := [("engine", "podman")] } "9.0.300"
    hread hversion
  have hexit : (run withKilledTests).exit = 137 := rfl
  exact ⟨hread, hversion, htruthful, hexit⟩

end Stagehand.Program.BuildCommand
