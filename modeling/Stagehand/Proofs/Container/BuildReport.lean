import Stagehand.Proofs.Build.Report
import Stagehand.Proofs.Container.BuildAttempts
/-!
# What a build with an engine program shows

The commands in the container write to the outputs of the build, and those that bring it up and
remove it are caught. So the report of a build with an engine program is settled by the image and by
what came of the stages that were attempted (`run_heard`). The main statement is `run_reported`.
-/

namespace Stagehand.Docker

/-- The attempts to run a command in a container. -/
def stageAttempts (attempts : List Attempt) : List Attempt :=
  attempts.filter fun a => a.command.arguments.head? == some "exec"

/-- The attempts of a build to run a stage. -/
def stagesMade (docker : Docker) (settings : BuildSettings) (host : Host) : List Attempt :=
  stageAttempts (host.made (Build.run docker.engine settings true host).world)

/-- What a build with the program shows of the attempts that it makes. -/
structure Reported (docker : Docker) (settings : BuildSettings) (host : Host) : Prop where
  /-- The stages were attempted in order in one container, up to some stage. -/
  attempted : ∃ container, (docker.stagesMade settings host).map Attempt.command =
    (stages.take (docker.stagesMade settings host).length).map
      (docker.stageCommand container settings.workdir)
  /-- The report is that of what came of them. -/
  report : Build.Reports settings.image
    ((docker.stagesMade settings host).map fun a => stageReply a.launch)
    (Build.run docker.engine settings true host).trace
  /-- Nothing else that is started shows, whatever it writes. -/
  apart : ∀ (other : Docker) (settings' : BuildSettings) (host' : Host),
    settings'.image = settings.image →
    (other.stagesMade settings' host').map Attempt.launch =
      (docker.stagesMade settings host).map Attempt.launch →
    (Build.run other.engine settings' true host').trace.output =
        (Build.run docker.engine settings true host).trace.output ∧
      (Build.run other.engine settings' true host').trace.errors =
        (Build.run docker.engine settings true host).trace.errors

/-! ## What is attempted beside the stages -/

theorem stageAttempts_append (before after : List Attempt) :
    stageAttempts (before ++ after) = stageAttempts before ++ stageAttempts after :=
  List.filter_append before after

theorem stageAttempts_of_forall_ne {attempts : List Attempt}
    (h : ∀ a ∈ attempts, a.command.arguments.head? ≠ some "exec") :
    stageAttempts attempts = [] := by
  simpa [stageAttempts] using h

/-- Bringing up a container runs no command in it. -/
theorem provision_attempts (docker : Docker) (image source workdir : String) (host : Host) :
    ∃ attempts, (docker.provision image source workdir host).2.attempts =
        host.attempts ++ attempts ∧
      stageAttempts attempts = [] := by
  by_cases hup : ∃ container, docker.BringsUp image workdir container host
  · obtain ⟨container, hup⟩ := hup
    rw [provision_of_bringsUp hup]
    rcases copy_cases docker container source workdir
      (host.start (docker.startCommand image workdir)).2 with
      ⟨hcopy, -⟩ | ⟨e, removals, -, hattempts, -, hremovals⟩
    · rw [hcopy, Host.attempts_start, Host.attempts_start, List.append_assoc]
      exact ⟨_, rfl, rfl⟩
    · rw [hattempts, Host.attempts_start, List.append_assoc]
      refine ⟨_, rfl, stageAttempts_of_forall_ne ?_⟩
      simp only [List.cons_append, List.nil_append, List.forall_mem_cons]
      refine ⟨by simp [startCommand], by simp [Host.attempt, copyCommand], ?_⟩
      intro a ha
      simp [hremovals a ha, removeCommand]
  · obtain ⟨-, hworld⟩ :=
      @provision_of_not_bringsUp docker image source workdir host (not_exists.mp hup)
    rw [hworld]
    exact ⟨_, rfl, rfl⟩

/-! ## The stages -/

/-- The replies in the trace are what came of the attempts. -/
theorem runStages_heard (docker : Docker) (container workdir : String) (number total : Nat)
    (plan : List Stage) (host : Host) :
    ∃ attempts,
      (Build.runStages docker.engine container workdir number total plan host).world.attempts =
        host.attempts ++ attempts ∧
      (Build.runStages docker.engine container workdir number total plan host).trace.execs.map
        Prod.snd = attempts.map fun a => stageReply a.launch := by
  induction plan generalizing number host with
  | nil => exact ⟨[], (List.append_nil _).symm, rfl⟩
  | cons stage plan ih =>
    rw [Build.runStages, exec_eq]
    rcases hresult : (stageReply
      (host.launch (docker.stageCommand container workdir stage))).result with e | code
    · simp only [hresult]
      exact ⟨[host.attempt _], rfl, rfl⟩
    · simp only [hresult]
      split_ifs with hzero
      · obtain ⟨attempts, hworld, hheard⟩ := ih (number + 1)
          (host.start (docker.stageCommand container workdir stage)).2
        refine ⟨host.attempt (docker.stageCommand container workdir stage) :: attempts,
          hworld.trans ?_, ?_⟩
        · rw [Host.attempts_start, List.append_assoc]
          rfl
        · rw [Build.Run.after, Build.execs_append, List.map_append, hheard]
          rfl
      · exact ⟨[host.attempt _], rfl, rfl⟩

theorem stageAttempts_of_commands {docker : Docker} {container workdir : String}
    {attempts : List Attempt} {plan : List Stage}
    (h : attempts.map Attempt.command = plan.map (docker.stageCommand container workdir)) :
    stageAttempts attempts = attempts := by
  refine List.filter_eq_self.mpr fun a ha => ?_
  have hcommand := List.mem_map_of_mem (f := Attempt.command) ha
  rw [h] at hcommand
  obtain ⟨stage, -, hstage⟩ := List.mem_map.mp hcommand
  rw [← hstage]
  rfl

/-- In a container the stages are attempted in order, and then the removal. -/
theorem runInContainer_heard (docker : Docker) (container workdir : String) (plan : List Stage)
    (host : Host) :
    ∃ attempts removed,
      (Build.runInContainer docker.engine container workdir plan host).world.attempts =
        host.attempts ++ (attempts ++ [removed]) ∧
      removed.command = docker.removeCommand container ∧
      attempts.map Attempt.command =
        (plan.take attempts.length).map (docker.stageCommand container workdir) ∧
      (Build.runInContainer docker.engine container workdir plan host).trace.execs.map Prod.snd =
        attempts.map fun a => stageReply a.launch := by
  obtain ⟨attempts, removed, hworld, hran, hremoved⟩ :=
    runInContainer_ran docker container workdir plan host
  obtain ⟨stagesOnly, hstages, hheard⟩ :=
    runStages_heard docker container workdir 1 plan.length plan host
  have hteardown : (Build.runInContainer docker.engine container workdir plan host).world =
      (docker.teardown container
        (Build.runStages docker.engine container workdir 1 plan.length plan host).world).2 := rfl
  -- Both describe the same attempts.
  obtain rfl : attempts = stagesOnly := by
    rw [hteardown, teardown_snd, Host.attempts_start, hstages, List.append_assoc] at hworld
    exact (List.append_inj_left' (List.append_cancel_left hworld) rfl).symm
  refine ⟨attempts, removed, hworld, hremoved, hran.commands, ?_⟩
  rw [← hheard]
  unfold Build.runInContainer
  rw [Build.execs_append, List.map_append]
  exact List.append_nil _

/-! ## The whole build -/

/-- The replies that a build heeds are what came of the stages that it attempted, in order and in
one container. -/
theorem run_heard (docker : Docker) (settings : BuildSettings) (host : Host) :
    (∃ container, (docker.stagesMade settings host).map Attempt.command =
      (stages.take (docker.stagesMade settings host).length).map
        (docker.stageCommand container settings.workdir)) ∧
      (Build.run docker.engine settings true host).trace.execs.map Prod.snd =
        (docker.stagesMade settings host).map fun a => stageReply a.launch := by
  obtain ⟨before, hbefore, hnone⟩ :=
    provision_attempts docker settings.image settings.source settings.workdir host
  unfold stagesMade
  rcases hprovision : docker.provision settings.image settings.source settings.workdir host with
    ⟨e | container, world⟩
  · rw [hprovision] at hbefore
    have hasked : Build.asked docker.engine settings host = (.error e, world) := hprovision
    rw [Build.run_of_refused hasked, Host.made_of_append hbefore, hnone]
    exact ⟨⟨"", rfl⟩, rfl⟩
  · rw [hprovision] at hbefore
    have hasked : Build.asked docker.engine settings host = (.ok container, world) := hprovision
    obtain ⟨attempts, removed, hworld, hremoved, hcommands, hheard⟩ :=
      runInContainer_heard docker container settings.workdir stages world
    -- Neither what brings the container up nor what removes it is a stage.
    have hcaught : stageAttempts [removed] = [] :=
      stageAttempts_of_forall_ne (by simp [hremoved, removeCommand])
    have hmade : host.made (Build.run docker.engine settings true host).world =
        before ++ (attempts ++ [removed]) := by
      rw [Build.run_of_container hasked]
      refine Host.made_of_append (hworld.trans ?_)
      rw [hbefore, List.append_assoc]
    rw [hmade, stageAttempts_append, stageAttempts_append, hnone, hcaught,
      stageAttempts_of_commands hcommands, List.nil_append, List.append_nil]
    refine ⟨⟨container, hcommands⟩, ?_⟩
    rw [Build.run_of_container hasked, Build.Run.after, Build.execs_append, List.map_append,
      hheard]
    rfl

theorem heard_eq (docker : Docker) (settings : BuildSettings) (host : Host) :
    Build.heard docker.engine settings host =
      (docker.stagesMade settings host).map fun a => stageReply a.launch := by
  have hreports := Build.run_reports docker.engine settings host
  have hbounded : (Build.heard docker.engine settings host).length ≤
      (stages.map Stage.arguments).length := by
    rw [List.length_map]
    exact hreports.bounded
  rw [← (run_heard docker settings host).2, hreports.execs]
  exact (List.map_snd_zip hbounded).symm

/-- A build with an engine program shows its own lines and what its stages write, and nothing else
that it starts. -/
theorem reported (docker : Docker) (settings : BuildSettings) (host : Host) :
    Reported docker settings host where
  attempted := (run_heard docker settings host).1
  report := by
    rw [← heard_eq]
    exact Build.run_reports docker.engine settings host
  apart other settings' host' himage hlaunches := by
    have hreports := Build.run_reports docker.engine settings host
    have hreports' := Build.run_reports other.engine settings' host'
    have hsame : Build.heard other.engine settings' host' =
        Build.heard docker.engine settings host := by
      have hreplies := congrArg (List.map stageReply) hlaunches
      rw [List.map_map, List.map_map] at hreplies
      rw [heard_eq, heard_eq]
      exact hreplies
    rw [hsame, himage] at hreports'
    exact ⟨hreports'.output.trans hreports.output.symm, hreports'.errors.trans hreports.errors.symm⟩

/-- Every build reports what it did, and a build with an engine program shows beside the report only
what its stages write. -/
theorem run_reported (settings : BuildSettings) :
    (∀ {σ : Type} (engine : Engine σ) (s : σ),
      Build.Reports settings.image (Build.heard engine settings s)
        (Build.run engine settings true s).trace) ∧
      ∀ (docker : Docker) (host : Host), Reported docker settings host :=
  ⟨fun engine s => Build.run_reports engine settings s,
    fun docker host => reported docker settings host⟩

/-- A host on which everything the engine does is noisy, and the second stage fails. -/
def noisyEngine : Host where
  respond _ c :=
    if c.arguments.contains "tool" then
      .ok { output := Text.Utf8.encode "tools", errors := Text.Utf8.encode "no tools\n",
            ending := .exited 3 }
    else if c.arguments.contains "restore" then
      .ok { output := Text.Utf8.encode "restored\n", errors := Text.Utf8.encode "slow feed\n" }
    else .ok { output := Text.Utf8.encode "c0ffee\n", errors := Text.Utf8.encode "Pulling\n" }

theorem noisyEngine_reported :
    Reported ⟨"docker"⟩ (.of "docker" "9.0" ".") noisyEngine ∧
    (Build.run (Docker.mk "docker").engine (.of "docker" "9.0" ".") true noisyEngine).trace.output =
      Text.Utf8.encode ("Provisioning mcr.microsoft.com/dotnet/sdk:9.0 ...\n" ++
        "  [RUN]  (1/6) dotnet restore\nrestored\n  [DONE] restore\n" ++
        "  [RUN]  (2/6) dotnet tool restore\ntools") ∧
    (Build.run (Docker.mk "docker").engine (.of "docker" "9.0" ".") true noisyEngine).trace.errors =
      Text.Utf8.encode "slow feed\nno tools\n  [FAIL] tool restore exited with code 3\n" :=
  ⟨(run_reported (.of "docker" "9.0" ".")).2 ⟨"docker"⟩ noisyEngine, by decide +kernel,
    by decide +kernel⟩

end Stagehand.Docker
