import Stagehand.Proofs.Build.Course
import Stagehand.Proofs.Container.Provision
/-!
# What a build attempts

All that a build with an engine program can attempt, with the result of each case: `Ran` lists what
can come of the stages, and `Built` what can come of the whole build. Facts about the attempts of a
build are read off these relations; the main statements are `runStages_ran` and `run_built`.
-/

namespace Stagehand

theorem Attempt.EndedWith.unique {a : Attempt} {ending other : Ending} (h : a.EndedWith ending)
    (hother : a.EndedWith other) : ending = other := by
  obtain ⟨b, hb, rfl⟩ := h
  obtain ⟨b', hb', rfl⟩ := hother
  rw [hb, Except.ok.injEq] at hb'
  rw [hb']

theorem Attempt.EndedWith.not_refused {a : Attempt} {ending : Ending} {cause : SystemError}
    (h : a.EndedWith ending) : a.launch ≠ .error cause := by
  obtain ⟨b, hb, -⟩ := h
  rw [hb]
  exact nofun

/-- The attempt to start a command on a host. -/
def Host.attempt (host : Host) (c : Command) : Attempt :=
  ⟨c, host.launch c⟩

namespace Docker

/-- The command that runs a stage in a container. -/
def stageCommand (docker : Docker) (container workdir : String) (stage : Stage) : Command where
  program := docker.program
  arguments := ["exec", "-w", workdir, container] ++ stage.arguments

/-- The attempt ended well and names the container. -/
def Names (a : Attempt) (container : String) : Prop :=
  ∃ b, a.launch = .ok b ∧ b.ending = .exited 0 ∧ containerOf (textOf b.output) = container ∧
    container ≠ ""

/-- What can come of the stages that remain: what is attempted, and the result. -/
inductive Ran (docker : Docker) (container workdir : String) :
    List Stage → List Attempt → Except BuildError Int → Prop
  | done : Ran docker container workdir [] [] (.ok 0)
  | passed {stage : Stage} {plan : List Stage} {a : Attempt} {attempts : List Attempt}
      {result : Except BuildError Int} : a.command = docker.stageCommand container workdir stage →
      a.EndedWith (.exited 0) → Ran docker container workdir plan attempts result →
      Ran docker container workdir (stage :: plan) (a :: attempts) result
  | failed {stage : Stage} {plan : List Stage} {a : Attempt} {ending : Ending} :
      a.command = docker.stageCommand container workdir stage → a.EndedWith ending →
      ending ≠ .exited 0 → Ran docker container workdir (stage :: plan) [a] (.ok ending.status)
  | refused {stage : Stage} {plan : List Stage} {a : Attempt} {cause : SystemError} :
      a.command = docker.stageCommand container workdir stage → a.launch = .error cause →
      Ran docker container workdir (stage :: plan) [a] (.error (.spawnFailed "exec" cause))

/-- What can come of a build: what is attempted, and the result. -/
inductive Built (docker : Docker) (settings : BuildSettings) :
    List Attempt → Except BuildError Int → Prop
  | noContainer {started : Attempt} (e : BuildError) :
      started.command = docker.startCommand settings.image settings.workdir →
      (∀ container, ¬ Names started container) → Built docker settings [started] (.error e)
  | notCopied {container : String} {started copied : Attempt} {removals : List Attempt}
      (e : BuildError) :
      started.command = docker.startCommand settings.image settings.workdir →
      Names started container →
      copied.command = docker.copyCommand container settings.source settings.workdir →
      ¬ copied.EndedWith (.exited 0) →
      (∀ a ∈ removals, a.command = docker.removeCommand container) →
      Built docker settings (started :: copied :: removals) (.error e)
  | ran {container : String} {started copied removed : Attempt} {attempts : List Attempt}
      {result : Except BuildError Int} :
      started.command = docker.startCommand settings.image settings.workdir →
      Names started container →
      copied.command = docker.copyCommand container settings.source settings.workdir →
      copied.EndedWith (.exited 0) →
      Ran docker container settings.workdir stages attempts result →
      removed.command = docker.removeCommand container →
      Built docker settings (started :: copied :: (attempts ++ [removed])) result

/-! ## What the cases have in common -/

section Ran

variable {docker : Docker} {container workdir : String} {plan : List Stage}
  {attempts : List Attempt} {result : Except BuildError Int}

theorem Ran.length_le (h : Ran docker container workdir plan attempts result) :
    attempts.length ≤ plan.length := by
  induction h with
  | done => exact Nat.le_refl _
  | passed _ _ _ ih => exact Nat.succ_le_succ ih
  | failed | refused => exact Nat.succ_le_succ (Nat.zero_le _)

/-- The stages are attempted in order. -/
theorem Ran.commands (h : Ran docker container workdir plan attempts result) :
    attempts.map Attempt.command =
      (plan.take attempts.length).map (docker.stageCommand container workdir) := by
  induction h with
  | done => rfl
  | passed hcommand _ _ ih =>
    rw [List.map_cons, List.length_cons, List.take_succ_cons, List.map_cons, hcommand, ih]
  | failed hcommand | refused hcommand => simp [hcommand]

/-- All stages ended well, or all that were attempted but the last, which ended badly or could not
be started; and the result is what came of the last. -/
theorem Ran.outcome (h : Ran docker container workdir plan attempts result) :
    (attempts.length = plan.length ∧ (∀ a ∈ attempts, a.EndedWith (.exited 0)) ∧
      result = .ok 0) ∨
    ∃ passed a, attempts = passed ++ [a] ∧ (∀ p ∈ passed, p.EndedWith (.exited 0)) ∧
      ((∃ ending, a.EndedWith ending ∧ ending ≠ .exited 0 ∧ result = .ok ending.status) ∨
        ∃ cause, a.launch = .error cause ∧ result = .error (.spawnFailed "exec" cause)) := by
  induction h with
  | done => exact .inl ⟨rfl, by simp, rfl⟩
  | failed _ hended hbad =>
    exact .inr ⟨[], _, rfl, by simp, .inl ⟨_, hended, hbad, rfl⟩⟩
  | refused _ hlaunch => exact .inr ⟨[], _, rfl, by simp, .inr ⟨_, hlaunch, rfl⟩⟩
  | passed _ hwell _ ih =>
    rcases ih with ⟨hlength, hall, hresult⟩ | ⟨passed, a, rfl, hpassed, hlast⟩
    · exact .inl ⟨congrArg (· + 1) hlength, List.forall_mem_cons.mpr ⟨hwell, hall⟩, hresult⟩
    · exact .inr ⟨_ :: passed, a, rfl, List.forall_mem_cons.mpr ⟨hwell, hpassed⟩, hlast⟩

/-- A stage that did not end well is the last, and what came of it is the result. -/
theorem Ran.of_mem (h : Ran docker container workdir plan attempts result) {a : Attempt}
    (ha : a ∈ attempts) :
    a.EndedWith (.exited 0) ∨
      (∃ ending, a.EndedWith ending ∧ ending ≠ .exited 0 ∧ result = .ok ending.status) ∨
      ∃ cause, a.launch = .error cause ∧ result = .error (.spawnFailed "exec" cause) := by
  obtain ⟨-, hall, -⟩ | ⟨passed, last, rfl, hpassed, hlast⟩ := h.outcome
  · exact .inl (hall a ha)
  · obtain hmem | hmem := List.mem_append.mp ha
    · exact .inl (hpassed a hmem)
    · obtain rfl := List.mem_singleton.mp hmem
      exact .inr hlast

/-- Stages that all ended well were all attempted, and give zero. -/
theorem Ran.of_all_well (h : Ran docker container workdir plan attempts result)
    (hall : ∀ a ∈ attempts, a.EndedWith (.exited 0)) :
    attempts.length = plan.length ∧ result = .ok 0 := by
  obtain ⟨hlength, -, hresult⟩ | ⟨passed, a, rfl, -, hlast⟩ := h.outcome
  · exact ⟨hlength, hresult⟩
  · have hwell := hall a (by simp)
    obtain ⟨ending, hended, hbad, -⟩ | ⟨cause, hlaunch, -⟩ := hlast
    · exact absurd (hended.unique hwell) hbad
    · exact absurd hlaunch hwell.not_refused

end Ran

/-! ## The stages -/

/-- What comes of a stage, given what starting its command led to. -/
def stageReply : Launch → ExecReply
  | .error cause => { result := .error (.spawnFailed "exec" cause) }
  | .ok b => { result := .ok b.ending.status, shown := ⟨b.output, b.errors⟩ }

theorem exec_eq (docker : Docker) (container workdir : String) (stage : Stage) (host : Host) :
    docker.engine.exec container workdir stage.arguments host =
      (stageReply (host.launch (docker.stageCommand container workdir stage)),
        (host.start (docker.stageCommand container workdir stage)).2) := by
  have hexec : docker.engine.exec container workdir stage.arguments host =
      docker.exec container workdir stage.arguments host := rfl
  rw [hexec]
  unfold exec Host.start stageCommand
  rcases host.launch _ with cause | b <;> rfl

/-- What is attempted for the stages, and their result. -/
theorem runStages_ran (docker : Docker) (container workdir : String) (number total : Nat)
    (plan : List Stage) (host : Host) :
    ∃ attempts,
      (Build.runStages docker.engine container workdir number total plan host).world.attempts =
        host.attempts ++ attempts ∧
      Ran docker container workdir plan attempts
        (Build.runStages docker.engine container workdir number total plan host).result := by
  induction plan generalizing number host with
  | nil => exact ⟨[], (List.append_nil _).symm, .done⟩
  | cons stage plan ih =>
    have hended (b : Behaviour)
        (hb : host.launch (docker.stageCommand container workdir stage) = .ok b) :
        (host.attempt (docker.stageCommand container workdir stage)).EndedWith b.ending :=
      ⟨b, hb, rfl⟩
    rw [Build.runStages, exec_eq]
    rcases hlaunch : host.launch (docker.stageCommand container workdir stage) with cause | b
    · exact ⟨[host.attempt _], rfl, .refused rfl hlaunch⟩
    · simp only [stageReply]
      split_ifs with hzero
      · obtain ⟨attempts, hworld, hran⟩ := ih (number + 1)
          (host.start (docker.stageCommand container workdir stage)).2
        have hwell := hended b hlaunch
        rw [(Ending.status_eq_zero_iff b.ending).mp hzero] at hwell
        refine ⟨host.attempt _ :: attempts, hworld.trans ?_, .passed rfl hwell hran⟩
        rw [Host.attempts_start, List.append_assoc]
        rfl
      · have hbad : b.ending ≠ .exited 0 := mt (Ending.status_eq_zero_iff b.ending).mpr hzero
        exact ⟨[host.attempt _], rfl, .failed rfl (hended b hlaunch) hbad⟩

/-- In a container the stages are attempted, and then the removal. -/
theorem runInContainer_ran (docker : Docker) (container workdir : String) (plan : List Stage)
    (host : Host) :
    ∃ attempts removed,
      (Build.runInContainer docker.engine container workdir plan host).world.attempts =
        host.attempts ++ (attempts ++ [removed]) ∧
      Ran docker container workdir plan attempts
        (Build.runInContainer docker.engine container workdir plan host).result ∧
      removed.command = docker.removeCommand container := by
  obtain ⟨attempts, hworld, hran⟩ :=
    runStages_ran docker container workdir 1 plan.length plan host
  have hteardown : (Build.runInContainer docker.engine container workdir plan host).world =
      (docker.teardown container
        (Build.runStages docker.engine container workdir 1 plan.length plan host).world).2 := rfl
  rw [hteardown, teardown_snd, Host.attempts_start, hworld, List.append_assoc]
  exact ⟨attempts, _, rfl, hran, rfl⟩

/-! ## The whole build -/

/-- What is attempted for a copy: one that ends well and nothing else, or one that does not and
perhaps a removal. -/
theorem copy_cases (docker : Docker) (container source workdir : String) (host : Host) :
    (docker.copy container source workdir host =
        (.ok container, (host.start (docker.copyCommand container source workdir)).2) ∧
      (host.attempt (docker.copyCommand container source workdir)).EndedWith (.exited 0)) ∨
    ∃ e removals, (docker.copy container source workdir host).1 = .error e ∧
      (docker.copy container source workdir host).2.attempts = host.attempts ++
        host.attempt (docker.copyCommand container source workdir) :: removals ∧
      ¬ (host.attempt (docker.copyCommand container source workdir)).EndedWith (.exited 0) ∧
      ∀ a ∈ removals, a.command = docker.removeCommand container := by
  rcases hlaunch : host.launch (docker.copyCommand container source workdir) with cause | b
  · rw [copy_of_refused hlaunch]
    exact .inr ⟨_, [], rfl, rfl, fun hwell => hwell.not_refused hlaunch, by simp⟩
  · by_cases hend : b.ending = .exited 0
    · exact .inl ⟨copy_of_success hlaunch hend, b, hlaunch, hend⟩
    · have hbad : ¬ (host.attempt (docker.copyCommand container source workdir)).EndedWith
          (.exited 0) := fun hwell => hend (Attempt.EndedWith.unique ⟨b, hlaunch, rfl⟩ hwell)
      rw [copy_of_failure hlaunch hend, Host.attempts_start, Host.attempts_start,
        List.append_assoc]
      exact .inr ⟨_, _, rfl, rfl, hbad, by simp⟩

/-- What is attempted for a build, and its result. -/
theorem run_built (docker : Docker) (settings : BuildSettings) (host : Host) :
    ∃ attempts, (Build.run docker.engine settings true host).world.attempts =
        host.attempts ++ attempts ∧
      Built docker settings attempts (Build.run docker.engine settings true host).result := by
  have hasked : Build.asked docker.engine settings host =
      docker.provision settings.image settings.source settings.workdir host := rfl
  by_cases hup : ∃ container, docker.BringsUp settings.image settings.workdir container host
  · obtain ⟨container, hup⟩ := hup
    have hnames : Names (host.attempt (docker.startCommand settings.image settings.workdir))
        container := hup
    rw [provision_of_bringsUp hup] at hasked
    rcases copy_cases docker container settings.source settings.workdir
      (host.start (docker.startCommand settings.image settings.workdir)).2 with
      ⟨hcopy, hwell⟩ | ⟨e, removals, he, hattempts, hbad, hremovals⟩
    · rw [Build.run_of_container (hasked.trans hcopy)]
      obtain ⟨attempts, removed, hworld, hran, hremoved⟩ := runInContainer_ran docker container
        settings.workdir stages (Host.start _ (docker.copyCommand container _ _)).2
      refine ⟨_, hworld.trans ?_, .ran rfl hnames rfl hwell hran hremoved⟩
      rw [Host.attempts_start, Host.attempts_start, List.append_assoc, List.append_assoc]
      rfl
    · rw [Build.run_of_refused (hasked.trans (Prod.ext he rfl))]
      refine ⟨_, hattempts.trans ?_, .notCopied e rfl hnames rfl hbad hremovals⟩
      rw [Host.attempts_start, List.append_assoc]
      rfl
  · obtain ⟨⟨e, he⟩, hworld⟩ := @provision_of_not_bringsUp docker settings.image settings.source
      settings.workdir host (not_exists.mp hup)
    rw [Build.run_of_refused (hasked.trans (Prod.ext he hworld))]
    exact ⟨[host.attempt _], rfl, .noContainer e rfl (not_exists.mp hup)⟩

end Docker

end Stagehand
