import Stagehand.Proofs.Container.BuildOutcome
import Stagehand.Proofs.Container.Removal
/-!
# The invocations of a build

When every process of the engine starts there are three ways that a build can go (`Invoked`), and in
each the outcomes of the processes settle what is invoked, in which order, and the result. A copy
that fails is cleaned up after by the provision and everything later by the build, and together they
remove each container once, as the last thing that is done (`Invoked.removes`). The main statement
is `run_invoked`.
-/

namespace Stagehand

theorem Attempt.not_started {a : Attempt} {cause : SystemError} (h : a.launch = .error cause) :
    a.started ≠ true := by
  unfold started
  rw [h]
  exact nofun

/-- Two commands are two attempts, the second on the host that the first has left. -/
theorem Host.attempts_of_two (host : Host) (c d : Command) (later : List Attempt) :
    ((host.start c).2.start d).2.attempts ++ later =
      host.attempts ++ host.attempt c :: (host.start c).2.attempt d :: later := by
  rw [attempts_start, attempts_start, List.append_assoc, List.append_assoc]
  rfl

namespace Docker

/-- What a build invokes when every process starts, in order, and its result. -/
inductive Invoked (docker : Docker) (settings : BuildSettings) :
    List Attempt → Except BuildError Int → Prop
  /-- No container came up, and nothing else is invoked. -/
  | noContainer {started : Attempt} {b : Behaviour} :
      started.command = docker.startCommand settings.image settings.workdir →
      started.launch = .ok b → ¬ Up started →
      Invoked docker settings [started]
        (.error (.provisionFailed settings.image (textOf b.errors)))
  /-- The sources could not be copied, and the container is removed. -/
  | notCopied {container : String} {started copied removed : Attempt} {b : Behaviour} :
      started.command = docker.startCommand settings.image settings.workdir →
      Up started → Names started container →
      copied.command = docker.copyCommand container settings.source settings.workdir →
      copied.launch = .ok b → b.ending ≠ .exited 0 →
      removed.command = docker.removeCommand container →
      Invoked docker settings [started, copied, removed] (.error (.copyFailed (textOf b.errors)))
  /-- The stages run in order up to the first that does not end well, and with it, and then the
  container is removed. -/
  | ran {container : String} {started copied last removed : Attempt} {passed : List Attempt}
      {b : Behaviour} :
      started.command = docker.startCommand settings.image settings.workdir →
      Up started → Names started container →
      copied.command = docker.copyCommand container settings.source settings.workdir →
      copied.EndedWith (.exited 0) →
      (passed ++ [last]).map Attempt.command =
        (stages.take (passed.length + 1)).map (docker.stageCommand container settings.workdir) →
      (∀ a ∈ passed, a.EndedWith (.exited 0)) →
      last.launch = .ok b → (b.ending ≠ .exited 0 ∨ passed.length + 1 = stages.length) →
      removed.command = docker.removeCommand container →
      Invoked docker settings (started :: copied :: (passed ++ [last] ++ [removed]))
        (.ok b.ending.status)

/-- Every container that sources are copied into is removed by the last of the commands, and nothing
else is removed. -/
def RemovesOnce (docker : Docker) (settings : BuildSettings) (commands : List Command) : Prop :=
  ∀ container, docker.copyCommand container settings.source settings.workdir ∈ commands →
    ∃ earlier, commands = earlier ++ [docker.removeCommand container] ∧
      ∀ removed, docker.removeCommand removed ∉ earlier

variable {docker : Docker} {settings : BuildSettings} {attempts : List Attempt}
  {result : Except BuildError Int}

/-! ## Removals -/

theorem copyCommand_inj {container other source workdir : String}
    (h : docker.copyCommand container source workdir = docker.copyCommand other source workdir) :
    container = other := by
  have hnames : toString container = toString other := by simpa [copyCommand] using h
  exact hnames

theorem removesOnce_of_stages (container : String) (executed : List Stage) :
    RemovesOnce docker settings
      (docker.startCommand settings.image settings.workdir ::
        docker.copyCommand container settings.source settings.workdir ::
          (executed.map (docker.stageCommand container settings.workdir) ++
            [docker.removeCommand container])) := by
  intro other hcopy
  obtain rfl : container = other := by
    simp only [List.mem_cons, List.mem_append, List.mem_map, List.not_mem_nil, or_false] at hcopy
    obtain hstart | hsame | ⟨stage, -, hstage⟩ | hremove := hcopy
    · simp [startCommand, copyCommand] at hstart
    · exact (copyCommand_inj hsame).symm
    · simp [stageCommand, copyCommand] at hstage
    · exact absurd hremove (copyCommand_ne_removeCommand _ _ _ _ _)
  refine ⟨_ :: _ :: executed.map (docker.stageCommand container settings.workdir), rfl, ?_⟩
  intro removed hremoved
  simp only [List.mem_cons, List.mem_map] at hremoved
  obtain hstart | hcopied | ⟨stage, -, hstage⟩ := hremoved
  · exact removeCommand_ne_startCommand _ _ _ _ hstart
  · exact removeCommand_ne_copyCommand _ _ _ _ _ hcopied
  · exact stageCommand_ne_removeCommand _ _ _ _ _ hstage

theorem Invoked.removes (h : Invoked docker settings attempts result) :
    RemovesOnce docker settings (attempts.map Attempt.command) := by
  cases h with
  | noContainer hstarted =>
    intro container hcopy
    simp [hstarted, startCommand, copyCommand] at hcopy
  | @notCopied container _ _ _ _ hstarted _ _ hcopied _ _ hremoved =>
    have hremoves := @removesOnce_of_stages docker settings container []
    rwa [← hstarted, ← hcopied, ← hremoved] at hremoves
  | @ran container _ _ _ _ passed _ hstarted _ _ hcopied _ hcommands _ _ _ hremoved =>
    have hremoves := @removesOnce_of_stages docker settings container
      (stages.take (passed.length + 1))
    rw [← hstarted, ← hcopied, ← hremoved, ← hcommands] at hremoves
    rwa [List.map_cons, List.map_cons, List.map_append]

/-! ## The stages -/

/-- When all stages that are attempted start, what came of the last is the result. -/
theorem Ran.last_started {container workdir : String} {plan : List Stage}
    (h : Ran docker container workdir plan attempts result) (hplan : plan ≠ [])
    (hstarts : ∀ a ∈ attempts, a.started = true) :
    ∃ passed last b, attempts = passed ++ [last] ∧ (∀ a ∈ passed, a.EndedWith (.exited 0)) ∧
      last.launch = .ok b ∧ (b.ending ≠ .exited 0 ∨ attempts.length = plan.length) ∧
      result = .ok b.ending.status := by
  obtain ⟨hlength, hall, rfl⟩ | ⟨passed, last, rfl, hpassed, hlast⟩ := h.outcome
  · have hne : attempts ≠ [] := by
      rintro rfl
      exact hplan (List.length_eq_zero_iff.mp hlength.symm)
    obtain ⟨passed, last, rfl⟩ := (List.eq_nil_or_concat attempts).resolve_left hne
    rw [List.concat_eq_append] at *
    obtain ⟨hpassed, hwell⟩ := List.forall_mem_append.mp hall
    obtain ⟨b, hlaunch, hend⟩ := hwell last (List.mem_singleton_self last)
    rw [← (Ending.status_eq_zero_iff b.ending).mpr hend]
    exact ⟨passed, last, b, rfl, hpassed, hlaunch, .inr hlength, rfl⟩
  · obtain ⟨ending, ⟨b, hlaunch, rfl⟩, hbad, rfl⟩ | ⟨cause, hlaunch, -⟩ := hlast
    · exact ⟨passed, last, b, rfl, hpassed, hlaunch, .inl hbad, rfl⟩
    · exact absurd (hstarts last (by simp)) (Attempt.not_started hlaunch)

/-! ## The whole build -/

/-- What is invoked once a container is up. -/
theorem run_invokes_of_bringsUp {container : String} {host : Host}
    (h : docker.BringsUp settings.image settings.workdir container host) :
    ∃ attempts, (Build.run docker.engine settings true host).world.attempts =
        host.attempts ++ attempts ∧
      ((∀ a ∈ attempts, a.started = true) →
        Invoked docker settings attempts (Build.run docker.engine settings true host).result) := by
  have hnames : Names (host.attempt (docker.startCommand settings.image settings.workdir))
      container := h
  have hup := (up_iff _).mpr ⟨container, hnames⟩
  have hasked : Build.asked docker.engine settings host =
      docker.provision settings.image settings.source settings.workdir host := rfl
  rw [provision_of_bringsUp h] at hasked
  have hmade := Host.attempts_of_two host (docker.startCommand settings.image settings.workdir)
    (docker.copyCommand container settings.source settings.workdir)
  rcases hlaunch : (host.start (docker.startCommand settings.image settings.workdir)).2.launch
    (docker.copyCommand container settings.source settings.workdir) with cause | b
  · rw [copy_of_refused hlaunch] at hasked
    rw [Build.run_of_refused hasked]
    refine ⟨_, (List.append_nil _).symm.trans (hmade []), ?_⟩
    -- A copy that is refused is no process, so nothing is claimed of this build.
    intro hstarts
    cases Attempt.not_started (a := Host.attempt _ _) hlaunch (hstarts _ (by simp))
  · by_cases hend : b.ending = .exited 0
    · rw [copy_of_success hlaunch hend] at hasked
      rw [Build.run_of_container hasked]
      obtain ⟨executed, removed, hworld, hran, hremoved⟩ := runInContainer_ran docker container
        settings.workdir stages (Host.start _ (docker.copyCommand container _ _)).2
      refine ⟨_, hworld.trans (hmade _), ?_⟩
      intro hstarts
      obtain ⟨passed, last, ended, rfl, hpassed, hlast, hstop, hresult⟩ :=
        hran.last_started (by decide) fun a ha => hstarts a (by simp [ha])
      have hcommands := hran.commands
      rw [List.length_append, List.length_singleton] at hcommands hstop
      rw [Build.Run.after, hresult]
      exact .ran rfl hup hnames rfl ⟨b, hlaunch, hend⟩ hcommands hpassed hlast hstop hremoved
    · rw [copy_of_failure hlaunch hend] at hasked
      rw [Build.run_of_refused hasked]
      exact ⟨_, hmade [Host.attempt _ (docker.removeCommand container)],
        fun _ => .notCopied rfl hup hnames rfl hlaunch hend rfl⟩

/-- What is invoked for a build, as far as every process starts. -/
theorem run_invokes (docker : Docker) (settings : BuildSettings) (host : Host) :
    ∃ attempts, (Build.run docker.engine settings true host).world.attempts =
        host.attempts ++ attempts ∧
      ((∀ a ∈ attempts, a.started = true) →
        Invoked docker settings attempts (Build.run docker.engine settings true host).result) := by
  have hasked : Build.asked docker.engine settings host =
      docker.provision settings.image settings.source settings.workdir host := rfl
  rcases hlaunch : host.launch (docker.startCommand settings.image settings.workdir) with cause | b
  · rw [provision_of_refused hlaunch] at hasked
    rw [Build.run_of_refused hasked]
    refine ⟨[host.attempt _], rfl, ?_⟩
    intro hstarts
    cases Attempt.not_started (a := Host.attempt _ _) hlaunch (hstarts _ (by simp))
  · by_cases hname : b.ending = .exited 0 ∧ containerOf (textOf b.output) ≠ ""
    · exact run_invokes_of_bringsUp ⟨b, hlaunch, hname.1, rfl, hname.2⟩
    · have hdown : ¬ Up (host.attempt (docker.startCommand settings.image settings.workdir)) := by
        rw [up_iff]
        rintro ⟨container, ended, hended, hend, rfl, hne⟩
        obtain rfl : b = ended := Except.ok.inj (hlaunch.symm.trans hended)
        exact hname ⟨hend, hne⟩
      rw [provision_of_nameless hlaunch hname] at hasked
      rw [Build.run_of_refused hasked]
      exact ⟨[host.attempt _], rfl, fun _ => .noContainer rfl hlaunch hdown⟩

/-- When every process of the engine starts, a build makes these invocations and no others. -/
theorem run_invoked (docker : Docker) (settings : BuildSettings) (host : Host)
    (hstarts : ∀ a ∈ host.made (Build.run docker.engine settings true host).world,
      a.started = true) :
    Invoked docker settings (host.made (Build.run docker.engine settings true host).world)
        (Build.run docker.engine settings true host).result ∧
      RemovesOnce docker settings
        (host.tried (Build.run docker.engine settings true host).world) := by
  obtain ⟨attempts, hattempts, hinvoked⟩ := run_invokes docker settings host
  rw [Host.made_of_append hattempts] at hstarts ⊢
  rw [Host.tried, Host.made_of_append hattempts]
  exact ⟨hinvoked hstarts, (hinvoked hstarts).removes⟩

/-- A host on which the engine names a container after a notice, the tests of a build are killed, and
no container can be removed. -/
def killingTests : Host where
  respond _ c :=
    if c.arguments.contains "test" then .ok { ending := .killed ⟨15, by decide, by decide⟩ }
    else if c.arguments.head? = some "rm" then .ok { ending := .exited 1 }
    else .ok { output := Text.Utf8.encode "Pulling the image\nc0ffee \n" }

theorem killingTests_invoked :
    (∀ a ∈ killingTests.made (Build.run (Docker.mk "docker").engine (.of "docker" "9.0" "app") true
      killingTests).world, a.started = true) ∧
    Invoked ⟨"docker"⟩ (.of "docker" "9.0" "app")
      (killingTests.made (Build.run (Docker.mk "docker").engine (.of "docker" "9.0" "app") true
        killingTests).world) (.ok 143) ∧
    (killingTests.tried (Build.run (Docker.mk "docker").engine (.of "docker" "9.0" "app") true
        killingTests).world).map Command.arguments = [
      ["run", "-d", "--rm", "-w", "/src", "mcr.microsoft.com/dotnet/sdk:9.0", "sleep", "infinity"],
      ["cp", "app/.", "c0ffee:/src"],
      ["exec", "-w", "/src", "c0ffee", "dotnet", "restore"],
      ["exec", "-w", "/src", "c0ffee", "dotnet", "tool", "restore"],
      ["exec", "-w", "/src", "c0ffee", "dotnet", "build", "--no-restore", "-c", "Release"],
      ["exec", "-w", "/src", "c0ffee", "dotnet", "test", "--no-build", "--no-restore", "-c",
        "Release"],
      ["rm", "-f", "c0ffee"]] := by
  have hstarts : ∀ a ∈ killingTests.made (Build.run (Docker.mk "docker").engine
      (.of "docker" "9.0" "app") true killingTests).world, a.started = true := by decide
  have hresult : (Build.run (Docker.mk "docker").engine (.of "docker" "9.0" "app") true
      killingTests).result = .ok 143 := rfl
  obtain ⟨hinvoked, -⟩ := run_invoked ⟨"docker"⟩ (.of "docker" "9.0" "app") killingTests hstarts
  exact ⟨hstarts, hresult ▸ hinvoked, rfl⟩

end Docker

end Stagehand
