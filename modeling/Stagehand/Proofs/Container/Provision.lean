import Stagehand.Container.Docker
import Stagehand.Proofs.System.Attempts
/-!
# What is left of a failed provision

Bringing up a container takes two commands, and a third removes it when the copy ends badly. The
main statement, `removal_attempted_iff_copy_starts`, says when a failed provision leaves no
container behind: exactly when the copy could be started. A copy that the system refuses to start
leaves the container running (`refused_copy_leaves_container`).
-/

namespace Stagehand

namespace Docker

/-! ## The three commands -/

/-- The command that starts a container. -/
def startCommand (docker : Docker) (image workdir : String) : Command where
  program := docker.program
  arguments := ["run", "-d", "--rm", "-w", workdir, image, "sleep", "infinity"]

/-- The command that copies the sources into a container. -/
def copyCommand (docker : Docker) (container source workdir : String) : Command where
  program := docker.program
  arguments := ["cp", s!"{source}/.", s!"{container}:{workdir}"]

/-- The command that removes a container. -/
def removeCommand (docker : Docker) (container : String) : Command where
  program := docker.program
  arguments := ["rm", "-f", container]

theorem removeCommand_ne_startCommand (docker : Docker) (container image workdir : String) :
    docker.removeCommand container ≠ docker.startCommand image workdir := by
  simp [removeCommand, startCommand]

theorem removeCommand_ne_copyCommand (docker : Docker) (removed container source workdir : String) :
    docker.removeCommand removed ≠ docker.copyCommand container source workdir := by
  simp [removeCommand, copyCommand]

theorem runCaught_of_launch {docker : Docker} {arguments : List String} {host : Host}
    {b : Behaviour} (operation : String)
    (h : host.launch { program := docker.program, arguments } = .ok b) :
    docker.runCaught arguments operation host =
      (.ok ⟨b.ending, textOf b.output, textOf b.errors⟩,
        (host.start { program := docker.program, arguments }).2) := by
  unfold runCaught Host.start
  rw [h]

theorem runCaught_of_refused {docker : Docker} {arguments : List String} {host : Host}
    {cause : SystemError} (operation : String)
    (h : host.launch { program := docker.program, arguments } = .error cause) :
    docker.runCaught arguments operation host =
      (.error (.spawnFailed operation cause),
        (host.start { program := docker.program, arguments }).2) := by
  unfold runCaught Host.start
  rw [h]

theorem runCaught_snd (docker : Docker) (arguments : List String) (operation : String)
    (host : Host) :
    (docker.runCaught arguments operation host).2 =
      (host.start { program := docker.program, arguments }).2 := by
  cases h : host.launch { program := docker.program, arguments } with
  | error cause => rw [runCaught_of_refused operation h]
  | ok b => rw [runCaught_of_launch operation h]

theorem teardown_snd (docker : Docker) (container : String) (host : Host) :
    (docker.teardown container host).2 = (host.start (docker.removeCommand container)).2 :=
  runCaught_snd docker ["rm", "-f", container] "teardown" host

/-! ## Copying -/

section Copy

variable {docker : Docker} {container source workdir : String} {host : Host}

theorem copy_of_refused {cause : SystemError}
    (h : host.launch (docker.copyCommand container source workdir) = .error cause) :
    docker.copy container source workdir host =
      (.error (.spawnFailed "copy" cause),
        (host.start (docker.copyCommand container source workdir)).2) := by
  unfold copy
  rw [runCaught_of_refused "copy" h]
  rfl

theorem copy_of_success {b : Behaviour}
    (h : host.launch (docker.copyCommand container source workdir) = .ok b)
    (hend : b.ending = .exited 0) :
    docker.copy container source workdir host =
      (.ok container, (host.start (docker.copyCommand container source workdir)).2) := by
  unfold copy
  rw [runCaught_of_launch "copy" h, hend]
  rfl

theorem copy_of_failure {b : Behaviour}
    (h : host.launch (docker.copyCommand container source workdir) = .ok b)
    (hend : b.ending ≠ .exited 0) :
    docker.copy container source workdir host =
      (.error (.copyFailed (textOf b.errors)),
        ((host.start (docker.copyCommand container source workdir)).2.start
          (docker.removeCommand container)).2) := by
  have hfailed : b.ending.succeeded = false :=
    Bool.eq_false_iff.mpr (mt b.ending.succeeded_iff.mp hend)
  unfold copy
  rw [runCaught_of_launch "copy" h]
  simp only [hfailed, Bool.false_eq_true, if_false, teardown_snd]
  rfl

end Copy

/-! ## Provision -/

/-- Starting a container ends well and names this one. -/
def BringsUp (docker : Docker) (image workdir container : String) (host : Host) : Prop :=
  ∃ b, host.launch (docker.startCommand image workdir) = .ok b ∧ b.ending = .exited 0 ∧
    containerOf (textOf b.output) = container ∧ container ≠ ""

section Provision

variable {docker : Docker} {image source workdir : String} {host : Host}

/-- Once a container is up, all that is left is the copy. -/
theorem provision_of_bringsUp {container : String}
    (h : docker.BringsUp image workdir container host) :
    docker.provision image source workdir host =
      docker.copy container source workdir
        (host.start (docker.startCommand image workdir)).2 := by
  obtain ⟨b, hlaunch, hend, rfl, hne⟩ := h
  unfold provision
  simp only [runCaught_of_launch "provision" hlaunch]
  rw [if_pos ⟨by rw [hend]; rfl, hne⟩]
  rfl

theorem provision_of_refused {cause : SystemError}
    (h : host.launch (docker.startCommand image workdir) = .error cause) :
    docker.provision image source workdir host =
      (.error (.spawnFailed "provision" cause),
        (host.start (docker.startCommand image workdir)).2) := by
  unfold provision
  simp only [runCaught_of_refused "provision" h]
  rfl

theorem provision_of_nameless {b : Behaviour}
    (h : host.launch (docker.startCommand image workdir) = .ok b)
    (hbad : ¬ (b.ending = .exited 0 ∧ containerOf (textOf b.output) ≠ "")) :
    docker.provision image source workdir host =
      (.error (.provisionFailed image (textOf b.errors)),
        (host.start (docker.startCommand image workdir)).2) := by
  have hcond : ¬ (b.ending.succeeded = true ∧ containerOf (textOf b.output) ≠ "") :=
    fun hgood => hbad ⟨b.ending.succeeded_iff.mp hgood.1, hgood.2⟩
  unfold provision
  simp only [runCaught_of_launch "provision" h]
  rw [if_neg hcond]
  rfl

/-- If no container comes up, nothing but starting one is tried. -/
theorem provision_of_not_bringsUp
    (h : ∀ container, ¬ docker.BringsUp image workdir container host) :
    (∃ e, (docker.provision image source workdir host).1 = .error e) ∧
      (docker.provision image source workdir host).2 =
        (host.start (docker.startCommand image workdir)).2 := by
  cases hlaunch : host.launch (docker.startCommand image workdir) with
  | error cause =>
    rw [provision_of_refused hlaunch]
    exact ⟨⟨_, rfl⟩, rfl⟩
  | ok b =>
    have hbad : ¬ (b.ending = .exited 0 ∧ containerOf (textOf b.output) ≠ "") :=
      fun hgood => h _ ⟨b, hlaunch, hgood.1, rfl, hgood.2⟩
    rw [provision_of_nameless hlaunch hbad]
    exact ⟨⟨_, rfl⟩, rfl⟩

/-- A provision that succeeds has tried to start a container and to copy into it, no more. -/
theorem tried_of_provision_ok {container : String}
    (h : (docker.provision image source workdir host).1 = .ok container) :
    host.tried (docker.provision image source workdir host).2 =
      [docker.startCommand image workdir, docker.copyCommand container source workdir] := by
  by_cases hup : ∃ started, docker.BringsUp image workdir started host
  · obtain ⟨started, hstarted⟩ := hup
    rw [provision_of_bringsUp hstarted] at h ⊢
    cases hlaunch : (host.start (docker.startCommand image workdir)).2.launch
        (docker.copyCommand started source workdir) with
    | error cause =>
      rw [copy_of_refused hlaunch] at h
      cases h
    | ok b =>
      by_cases hend : b.ending = .exited 0
      · rw [copy_of_success hlaunch hend] at h ⊢
        obtain rfl : started = container := Except.ok.inj h
        simp [Host.tried, Host.made]
      · rw [copy_of_failure hlaunch hend] at h
        cases h
  · have hnone := not_exists.mp hup
    obtain ⟨⟨e, he⟩, -⟩ := @provision_of_not_bringsUp docker image source workdir host hnone
    rw [he] at h
    cases h

/-- A provision that fails after its container came up has tried to remove it exactly when the copy
could be started; a provision that succeeds has tried to remove nothing. -/
theorem removal_attempted_iff_copy_starts (docker : Docker) (image source workdir : String)
    (host : Host) :
    (∀ container, docker.BringsUp image workdir container host →
      (((∃ e, (docker.provision image source workdir host).1 = .error e) →
          docker.removeCommand container ∈
            host.tried (docker.provision image source workdir host).2) ↔
        ∃ b, (host.start (docker.startCommand image workdir)).2.launch
          (docker.copyCommand container source workdir) = .ok b)) ∧
    (∀ container, (docker.provision image source workdir host).1 = .ok container →
      ∀ removed, docker.removeCommand removed ∉
        host.tried (docker.provision image source workdir host).2) := by
  constructor
  · intro container hup
    rw [provision_of_bringsUp hup]
    cases hlaunch : (host.start (docker.startCommand image workdir)).2.launch
        (docker.copyCommand container source workdir) with
    | error cause =>
      rw [copy_of_refused hlaunch]
      constructor
      · intro hremoved
        have hmem := hremoved ⟨_, rfl⟩
        -- All that was tried is starting the container and copying into it.
        simp [Host.tried, Host.made, removeCommand_ne_startCommand,
          removeCommand_ne_copyCommand] at hmem
      · rintro ⟨b, hb⟩
        cases hb
    | ok b =>
      refine ⟨fun _ => ⟨b, rfl⟩, fun _ => ?_⟩
      rintro ⟨e, he⟩
      by_cases hend : b.ending = .exited 0
      · rw [copy_of_success hlaunch hend] at he
        cases he
      · rw [copy_of_failure hlaunch hend]
        simp [Host.tried, Host.made]
  · intro container hok removed
    rw [tried_of_provision_ok hok]
    simp [removeCommand_ne_startCommand, removeCommand_ne_copyCommand]

end Provision

/-! ## A container that is left behind -/

/-- A host on which starting a container gives one, and every other process ends with the code. -/
def hostEnding (code : UInt8) : Host where
  respond _ c :=
    if c.arguments.head? = some "run" then .ok { output := Text.Utf8.encode "c0ffee\n" }
    else .ok { ending := .exited code }

theorem bringsUp_hostEnding (code : UInt8) :
    (Docker.mk "docker").BringsUp "sdk" "/src" "c0ffee" (hostEnding code) := by
  refine ⟨{ output := Text.Utf8.encode "c0ffee\n" }, ?_, rfl, ?_, ?_⟩
  · rfl
  · decide
  · decide

theorem failed_copy_removes_container :
    (Docker.mk "docker").BringsUp "sdk" "/src" "c0ffee" (hostEnding 1) ∧
      (∃ e, ((Docker.mk "docker").provision "sdk" "." "/src" (hostEnding 1)).1 = .error e) ∧
      (Docker.mk "docker").removeCommand "c0ffee" ∈
        (hostEnding 1).tried
          ((Docker.mk "docker").provision "sdk" "." "/src" (hostEnding 1)).2 := by
  obtain ⟨hremoved, _⟩ :=
    removal_attempted_iff_copy_starts (Docker.mk "docker") "sdk" "." "/src" (hostEnding 1)
  have hup := bringsUp_hostEnding 1
  have herror : ∃ e, ((Docker.mk "docker").provision "sdk" "." "/src" (hostEnding 1)).1 =
      .error e := by
    rw [provision_of_bringsUp hup]
    exact ⟨_, rfl⟩
  exact ⟨hup, herror, (hremoved "c0ffee" hup).mpr ⟨_, rfl⟩ herror⟩

/-- Sources with a NUL in their path cannot be copied, and the container stays. -/
theorem refused_copy_leaves_container :
    ¬ ∀ (docker : Docker) (image source workdir container : String) (host : Host),
      docker.BringsUp image workdir container host →
      (∃ e, (docker.provision image source workdir host).1 = .error e) →
      docker.removeCommand container ∈
        host.tried (docker.provision image source workdir host).2 := by
  intro h
  have hup := bringsUp_hostEnding 0
  have hrefused : ((hostEnding 0).start ((Docker.mk "docker").startCommand "sdk" "/src")).2.launch
      ((Docker.mk "docker").copyCommand "c0ffee" "a\x00b" "/src") = .error .nulByte := rfl
  have hmem := h (Docker.mk "docker") "sdk" "a\x00b" "/src" "c0ffee" (hostEnding 0) hup
  rw [provision_of_bringsUp hup, copy_of_refused hrefused] at hmem
  have hremoved := hmem ⟨_, rfl⟩
  simp [Host.tried, Host.made, removeCommand_ne_startCommand,
    removeCommand_ne_copyCommand] at hremoved

end Docker

end Stagehand
