import Stagehand.Proofs.Container.BuildAttempts
/-!
# What comes of a removal

A removal is the last attempt of a build, and what comes of it is not heeded. So a build goes alike
on two hosts that differ in nothing but how they answer removals (`SameButRemovals.run_alike`).
-/

namespace Stagehand.Docker

/-- The two hosts have made the same attempts, and answer all commands but removals alike. -/
structure SameButRemovals (docker : Docker) (host other : Host) : Prop where
  attempts : other.attempts = host.attempts
  respond : ∀ earlier c, (∀ container, c ≠ docker.removeCommand container) →
    other.respond earlier c = host.respond earlier c

theorem startCommand_ne_removeCommand (docker : Docker) (image workdir container : String) :
    docker.startCommand image workdir ≠ docker.removeCommand container :=
  (removeCommand_ne_startCommand docker container image workdir).symm

theorem copyCommand_ne_removeCommand (docker : Docker)
    (container source workdir removed : String) :
    docker.copyCommand container source workdir ≠ docker.removeCommand removed :=
  (removeCommand_ne_copyCommand docker removed container source workdir).symm

theorem stageCommand_ne_removeCommand (docker : Docker) (container workdir : String)
    (stage : Stage) (removed : String) :
    docker.stageCommand container workdir stage ≠ docker.removeCommand removed := by
  simp [stageCommand, removeCommand]

namespace SameButRemovals

variable {docker : Docker} {host other : Host}

theorem launch (h : docker.SameButRemovals host other) {c : Command}
    (hc : ∀ container, c ≠ docker.removeCommand container) : other.launch c = host.launch c := by
  unfold Host.launch
  rw [h.respond _ c hc, h.attempts]

theorem start (h : docker.SameButRemovals host other) {c : Command}
    (hc : ∀ container, c ≠ docker.removeCommand container) :
    docker.SameButRemovals (host.start c).2 (other.start c).2 where
  attempts := by rw [Host.attempts_start, Host.attempts_start, h.attempts, h.launch hc]
  respond := h.respond

theorem copy (h : docker.SameButRemovals host other) (container source workdir : String) :
    (docker.copy container source workdir other).1 =
        (docker.copy container source workdir host).1 ∧
      ∀ copied, (docker.copy container source workdir host).1 = .ok copied →
        docker.SameButRemovals (docker.copy container source workdir host).2
          (docker.copy container source workdir other).2 := by
  have hc := copyCommand_ne_removeCommand docker container source workdir
  have hsame := h.launch hc
  rcases hlaunch : host.launch (docker.copyCommand container source workdir) with cause | b
  · rw [copy_of_refused hlaunch, copy_of_refused (hsame.trans hlaunch)]
    exact ⟨rfl, fun _ _ => h.start hc⟩
  · by_cases hend : b.ending = .exited 0
    · rw [copy_of_success hlaunch hend, copy_of_success (hsame.trans hlaunch) hend]
      exact ⟨rfl, fun _ _ => h.start hc⟩
    · rw [copy_of_failure hlaunch hend, copy_of_failure (hsame.trans hlaunch) hend]
      exact ⟨rfl, nofun⟩

theorem provision (h : docker.SameButRemovals host other) (image source workdir : String) :
    (docker.provision image source workdir other).1 =
        (docker.provision image source workdir host).1 ∧
      ∀ container, (docker.provision image source workdir host).1 = .ok container →
        docker.SameButRemovals (docker.provision image source workdir host).2
          (docker.provision image source workdir other).2 := by
  have hc := startCommand_ne_removeCommand docker image workdir
  have hsame := h.launch hc
  rcases hlaunch : host.launch (docker.startCommand image workdir) with cause | b
  · rw [provision_of_refused hlaunch, provision_of_refused (hsame.trans hlaunch)]
    exact ⟨rfl, nofun⟩
  · by_cases hname : b.ending = .exited 0 ∧ containerOf (textOf b.output) ≠ ""
    · obtain ⟨hend, hne⟩ := hname
      rw [provision_of_bringsUp ⟨b, hlaunch, hend, rfl, hne⟩,
        provision_of_bringsUp ⟨b, hsame.trans hlaunch, hend, rfl, hne⟩]
      exact (h.start hc).copy _ _ _
    · rw [provision_of_nameless hlaunch hname,
        provision_of_nameless (hsame.trans hlaunch) hname]
      exact ⟨rfl, nofun⟩

theorem replies (h : docker.SameButRemovals host other) (container workdir : String)
    (plan : List Stage) :
    docker.engine.replies container workdir plan other =
      docker.engine.replies container workdir plan host := by
  induction plan generalizing host other with
  | nil => rfl
  | cons stage plan ih =>
    have hc := stageCommand_ne_removeCommand docker container workdir stage
    rw [Engine.replies, Engine.replies, exec_eq, exec_eq, h.launch hc]
    exact congrArg _ (ih (h.start hc))

/-- The builds on the two hosts go alike. -/
theorem run_alike (h : docker.SameButRemovals host other) (settings : BuildSettings)
    (sourceFound : Bool) :
    (Build.run docker.engine settings sourceFound other).Alike
      (Build.run docker.engine settings sourceFound host) := by
  cases sourceFound with
  | false => exact ⟨rfl, rfl, rfl, rfl⟩
  | true =>
    obtain ⟨hreply, hafter⟩ := h.provision settings.image settings.source settings.workdir
    refine Build.run_alike hreply ?_
    intro container hcontainer
    exact congrArg Build.heeded
      ((hafter container hcontainer).replies container settings.workdir stages)

end SameButRemovals

end Stagehand.Docker
