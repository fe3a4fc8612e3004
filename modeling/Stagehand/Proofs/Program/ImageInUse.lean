import Stagehand.Proofs.Build.Report
import Stagehand.Proofs.Container.ContainerName
import Stagehand.Proofs.Program.BuildStatus
import Stagehand.Proofs.Program.OptionReading
import Stagehand.Proofs.Text.Pieces
/-!
# The image in use

`build-driver` takes the version from its flag, else from the variable, else it has a default, and
a blank version is the default as well, wherever it comes from. The version is trimmed once, and the
one image that this gives is started, announced and named when no container comes up. The main
statement is `image_resolved`.
-/

namespace Stagehand.Program.BuildCommand

open Text (Tidy trim)
open Text.Utf8 (encode)

/-- The version that is asked for: the flag comes before the variable, and the default is last. -/
inductive AsksFor (s : Surroundings) (version : String) : Prop
  | flag : Gives "dotnet-version" version s.arguments → AsksFor s version
  | variable : (∀ other, ¬ Gives "dotnet-version" other s.arguments) →
      s.environment "DOTNET_VERSION" = some (encode version) → AsksFor s version
  | default : (∀ other, ¬ Gives "dotnet-version" other s.arguments) →
      s.environment "DOTNET_VERSION" = none → version = "9.0.300" → AsksFor s version

/-- The tag for a version. -/
def tagFor (version : String) : String :=
  if trim version = "" then "9.0.300" else trim version

/-- The image for a version. -/
def imageFor (version : String) : String :=
  "mcr.microsoft.com/dotnet/sdk:" ++ tagFor version

/-- The command that starts a container from an image. -/
def starting (engine image : String) : Command where
  program := engine
  arguments := ["run", "-d", "--rm", "-w", "/src", image, "sleep", "infinity"]

/-- There are an engine and sources. -/
def Prepared (s : Surroundings) (settings : BuildSettings) : Prop :=
  s.installed settings.engine = true ∧ s.isDirectory settings.source = true

/-- The command uses the image for the version, and no other. -/
structure UsesImage (s : Surroundings) (settings : BuildSettings) (version : String) : Prop where
  image : settings.image = imageFor version
  tidy : Tidy (tagFor version)
  /-- A container is started from the image before anything else. -/
  first : Prepared s settings →
    (s.host.tried (run s).host).head? = some (starting settings.engine (imageFor version))
  /-- And from no other image is one started, whatever happens. -/
  only : ∀ c ∈ s.host.tried (run s).host, c.arguments.head? = some "run" →
    c = starting settings.engine (imageFor version)
  announced : Prepared s settings → Build.provisioningLine (imageFor version) <+: (run s).output
  /-- When no container comes up, the image is named in the failure and on standard error, where
  nothing else stands besides the log. -/
  failed : Prepared s settings → ∀ image errors,
    (Build.run (Docker.mk settings.engine).engine settings true s.host).result =
        .error (.provisionFailed image errors) →
      image = imageFor version ∧
        (run s).errors = encode ("Error: Build pipeline could not run: " ++
          (BuildError.provisionFailed (imageFor version) errors).message ++ "\n")
  /-- The settings are what their own version leads to. -/
  again : BuildSettings.of settings.engine settings.sdkVersion settings.source = settings

/-! ## Versions -/

theorem versionOf_eq (version : String) : BuildSettings.versionOf version = tagFor version := by
  unfold BuildSettings.versionOf tagFor
  split
  · next hempty => rw [if_pos hempty]
  · next hne => rw [if_neg hne]

theorem tidy_tagFor (version : String) : Tidy (tagFor version) := by
  unfold tagFor
  split_ifs with hempty
  · exact Text.tidy_of_trim_eq (by decide) rfl
  · exact Text.tidy_trim (Bool.eq_false_iff.mpr (mt Text.trim_eq_empty_iff.mpr hempty))

/-- A tidy version is its own tag. -/
theorem tagFor_of_tidy {version : String} (h : Tidy version) : tagFor version = version := by
  unfold tagFor
  rw [h.trim_eq, if_neg h.filled]

/-- The settings for the version of settings are these settings. -/
theorem of_sdkVersion (engine version source : String) :
    BuildSettings.of engine (BuildSettings.of engine version source).sdkVersion source =
      BuildSettings.of engine version source := by
  unfold BuildSettings.of
  simp only [versionOf_eq, tagFor_of_tidy (tidy_tagFor version)]

/-- The setting that names the version. -/
def versionSetting : Setting := ⟨"dotnet-version", "DOTNET_VERSION", .any⟩

theorem grammar_distinct : grammar.Distinct := by
  constructor <;>
  · intro s hs
    simp only [grammar, List.mem_cons, List.not_mem_nil, or_false] at hs
    rcases hs with rfl | rfl | rfl <;> decide

section Version

variable {s : Surroundings} {given : Given} {version : String}

/-- Where the flag is given, nothing else is asked for. -/
theorem versionAsked_of_flag {value : String} (h : given.value? "dotnet-version" = some value)
    (environment : Variables) : versionAsked given environment = .ok value := by
  unfold versionAsked
  rw [h]

theorem versionAsked_of_no_flag (h : given.value? "dotnet-version" = none)
    (environment : Variables) : versionAsked given environment = .ok version ↔
      environment "DOTNET_VERSION" = some (encode version) ∨
        environment "DOTNET_VERSION" = none ∧ version = "9.0.300" := by
  unfold versionAsked versionVariable
  rw [h]
  rcases environment "DOTNET_VERSION" with _ | bytes
  · simp [eq_comm]
  · rw [Option.some.injEq, ← Text.Utf8.decode?_eq_some_iff]
    rcases hdecoded : Text.Utf8.decode? bytes with _ | text <;> simp [hdecoded]

/-- The version that the command line and the environment ask for is the one that is taken. -/
theorem versionAsked_eq_ok_iff (hread : grammar.read s.arguments = .ok given) :
    versionAsked given s.environment = .ok version ↔ AsksFor s version := by
  have hsetting : versionSetting ∈ grammar.settings := by simp [grammar, versionSetting]
  have hflag (value : String) :
      given.value? "dotnet-version" = some value ↔ Gives "dotnet-version" value s.arguments :=
    value?_eq_some_iff hread grammar_distinct hsetting
  have hnoFlag : given.value? "dotnet-version" = none ↔
      ∀ other, ¬ Gives "dotnet-version" other s.arguments :=
    value?_eq_none_iff hread grammar_distinct hsetting
  cases hvalue : given.value? "dotnet-version" with
  | some value =>
    have hgives := (hflag value).mp hvalue
    rw [versionAsked_of_flag hvalue, Except.ok.injEq]
    constructor
    · rintro rfl
      exact .flag hgives
    · rintro (hgiven | ⟨hnone, -⟩ | ⟨hnone, -, -⟩)
      · rw [(hflag version).mpr hgiven] at hvalue
        exact (Option.some.inj hvalue).symm
      · exact absurd hgives (hnone value)
      · exact absurd hgives (hnone value)
  | none =>
    have hnone := hnoFlag.mp hvalue
    rw [versionAsked_of_no_flag hvalue]
    constructor
    · rintro (hset | ⟨hunset, hdefault⟩)
      · exact .variable hnone hset
      · exact .default hnone hunset hdefault
    · rintro (hgiven | ⟨-, hset⟩ | ⟨-, hunset, hdefault⟩)
      · exact absurd hgiven (hnone version)
      · exact .inl hset
      · exact .inr ⟨hunset, hdefault⟩

theorem exists_versionAsked (given : Given) {environment : Variables}
    (h : ∀ bytes, environment "DOTNET_VERSION" = some bytes → ∃ text, bytes = encode text) :
    ∃ version, versionAsked given environment = .ok version := by
  cases hvalue : given.value? "dotnet-version" with
  | some value => exact ⟨value, versionAsked_of_flag hvalue environment⟩
  | none =>
    simp only [versionAsked_of_no_flag hvalue]
    cases hset : environment "DOTNET_VERSION" with
    | none => exact ⟨"9.0.300", .inr ⟨rfl, rfl⟩⟩
    | some bytes =>
      obtain ⟨text, rfl⟩ := h bytes hset
      exact ⟨text, .inl rfl⟩

end Version

/-! ## The image in a run -/

section Run

variable {s : Surroundings} {settings : BuildSettings}

theorem output_ofRun (r : Build.Run Host) : (ofRun r).output = r.trace.output := by
  unfold ofRun
  cases r.result <;> rfl

theorem run_of_prepared (h : Prepared s settings) :
    runWith settings s =
      ofRun (Build.run (Docker.mk settings.engine).engine settings true s.host) := by
  rw [runWith_of_installed h.1, h.2]

/-- What is tried is nothing, or it is a container from the image of the settings and then no other
container. -/
theorem tried_of_runWith (s : Surroundings) (settings : BuildSettings) :
    (¬ Prepared s settings ∧ s.host.tried (runWith settings s).host = []) ∨
    ∃ later, s.host.tried (runWith settings s).host =
        (Docker.mk settings.engine).startCommand settings.image settings.workdir :: later ∧
      ∀ c ∈ later, c.arguments.head? ≠ some "run" := by
  rcases runWith_cases s settings with ⟨hmissing, -, hmade⟩ | ⟨hinstalled, hsource, _, hbuilt, -⟩
  · refine .inl ⟨?_, congrArg (List.map Attempt.command) hmade⟩
    rintro ⟨hinstalled, hsource⟩
    simp [hinstalled, hsource] at hmissing
  · obtain ⟨started, later, hattempts, hstarted, hlater⟩ := hbuilt.starts_once
    refine .inr ⟨later.map Attempt.command, ?_, List.forall_mem_map.mpr hlater⟩
    rw [← hstarted]
    exact congrArg (List.map Attempt.command) hattempts

theorem image_of (given : Given) (version : String) :
    (BuildCommand.settings given version).image = imageFor version := by
  unfold BuildCommand.settings BuildSettings.of BuildSettings.image imageFor
  rw [versionOf_eq]

theorem failureLine_eq (context message : String) :
    Report.failureLine context message [] = "Error: " ++ context ++ ": " ++ message ++ "\n" := by
  have hlines : ": ".intercalate [context, message] = context ++ ": " ++ message := rfl
  rw [Report.failureLine, hlines, ← String.append_assoc, ← String.append_assoc]

/-- A build that finds no container says so on standard error, and says nothing else there. -/
theorem errors_of_provisionFailed {r : Build.Run Host} {image errors : String}
    (hresult : r.result = .error (.provisionFailed image errors)) (hquiet : r.trace.errors = []) :
    (ofRun r).errors = encode ("Error: Build pipeline could not run: " ++
      (BuildError.provisionFailed image errors).message ++ "\n") := by
  unfold ofRun
  simp only [hresult, hquiet, List.nil_append, BuildError.causes, failureLine_eq]
  rfl

theorem usesImage {given : Given} {version : String}
    (hrun : run s = runWith (BuildCommand.settings given version) s) :
    UsesImage s (BuildCommand.settings given version) version := by
  have himage := image_of given version
  have hstart : (Docker.mk (BuildCommand.settings given version).engine).startCommand
      (BuildCommand.settings given version).image
      (BuildCommand.settings given version).workdir =
        starting (BuildCommand.settings given version).engine (imageFor version) := by
    rw [himage]
    rfl
  have htried := tried_of_runWith s (BuildCommand.settings given version)
  rw [← hrun, hstart] at htried
  constructor
  case image => exact himage
  case tidy => exact tidy_tagFor version
  case first =>
    intro hprepared
    obtain ⟨hnot, -⟩ | ⟨later, htried, -⟩ := htried
    · exact absurd hprepared hnot
    · rw [htried, List.head?_cons]
  case only =>
    -- Later attempts copy, run stages or remove; none of them starts a container.
    intro c hc hfirst
    obtain ⟨-, htried⟩ | ⟨later, htried, hlater⟩ := htried
    · rw [htried] at hc
      cases hc
    · rw [htried] at hc
      rcases List.mem_cons.mp hc with rfl | hc
      · rfl
      · exact absurd hfirst (hlater c hc)
  case announced =>
    intro hprepared
    rw [hrun, run_of_prepared hprepared, output_ofRun, (Build.run_reports _ _ _).output, himage]
    exact List.prefix_append _ _
  case failed =>
    intro hprepared image errors hresult
    obtain ⟨hsame, hquiet⟩ := Docker.run_of_provisionFailed hresult
    rw [himage] at hsame
    rw [hrun, run_of_prepared hprepared, ← hsame]
    exact ⟨rfl, errors_of_provisionFailed hresult hquiet⟩
  case again => exact of_sdkVersion _ _ _

end Run

/-- Every command line that is accepted, beside a variable that is unset or text, settles one
version, and the build uses the image for it. -/
theorem image_resolved (s : Surroundings) (given : Given)
    (hread : grammar.read s.arguments = .ok given)
    (htext : ∀ bytes, s.environment "DOTNET_VERSION" = some bytes →
      ∃ text, bytes = encode text) :
    ∃ version, (∀ other, AsksFor s other ↔ other = version) ∧
      UsesImage s (settings given version) version := by
  obtain ⟨version, hversion⟩ := exists_versionAsked given htext
  refine ⟨version, fun other => ?_, usesImage ?_⟩
  · rw [← versionAsked_eq_ok_iff hread, hversion, Except.ok.injEq, eq_comm]
  · unfold run
    simp only [hread, hversion]

/-- A build whose flag is blank although the variable names a version, on a host without the
image. -/
def withBlankFlag : Surroundings where
  arguments := ["--dotnet-version", " \u3000", "--source=app"]
  environment name := if name = "DOTNET_VERSION" then some (encode "8.0") else none
  input := []
  workTree := .ok "/work/"
  installed program := program == "docker"
  isDirectory path := path == "app"
  host := {
    respond := fun _ _ =>
      .ok { errors := encode "no such image\n", ending := .exited 125 } }

theorem withBlankFlag_resolved :
    grammar.read withBlankFlag.arguments =
        .ok { values := [("source", "app"), ("dotnet-version", " \u3000")] } ∧
      (∀ bytes, withBlankFlag.environment "DOTNET_VERSION" = some bytes →
        ∃ text, bytes = encode text) ∧
      (∃ version, (∀ other, AsksFor withBlankFlag other ↔ other = version) ∧
        UsesImage withBlankFlag (.of "docker" version "app") version) ∧
      (run withBlankFlag).output =
        encode "Provisioning mcr.microsoft.com/dotnet/sdk:9.0.300 ...\n" ∧
      (run withBlankFlag).errors = encode ("Error: Build pipeline could not run: " ++
        "Failed to provision container from mcr.microsoft.com/dotnet/sdk:9.0.300: " ++
          "no such image\n") := by
  have hread : grammar.read withBlankFlag.arguments =
      .ok { values := [("source", "app"), ("dotnet-version", " \u3000")] } := rfl
  have htext : ∀ bytes, withBlankFlag.environment "DOTNET_VERSION" = some bytes →
      ∃ text, bytes = encode text := by
    intro bytes hset
    exact ⟨"8.0", (Option.some.inj hset).symm⟩
  exact ⟨hread, htext, image_resolved withBlankFlag _ hread htext, by decide +kernel,
    by decide +kernel⟩

end Stagehand.Program.BuildCommand
