import Stagehand.Proofs.Container.Provision
import Stagehand.Proofs.Text.FilledLines
/-!
# The name of a container

The engine names a container on the last line that it writes with anything on it, so there is a name
exactly when it writes anything that is not blank (`containerOf_eq_empty_iff`). That line without
its blank ends is the only name that a provision uses and gives. The main statement is
`provision_named`.
-/

namespace Stagehand.Docker

open Text (LastFilled Tidy isBlankText)

/-- How a provision names its container, when the command that starts one ended well and wrote
these bytes. -/
structure NamedBy (docker : Docker) (image source workdir : String) (host : Host) (bytes : Bytes) :
    Prop where
  /-- It fails for want of a name exactly when all that was written is blank. -/
  nameless : (∃ image' errors, (docker.provision image source workdir host).1 =
      .error (.provisionFailed image' errors)) ↔
    isBlankText (Text.Utf8.decodeLossy bytes) = true
  /-- Otherwise the last line that is not blank, once it is trimmed, is the name that everything
  after the start of the container uses, and the only name that can come out. -/
  named : isBlankText (Text.Utf8.decodeLossy bytes) = false →
    ∃ line container, LastFilled ((Text.Utf8.decodeLossy bytes).toList.splitOn '\n') line ∧
      container = Text.trim (String.ofList line) ∧ Tidy container ∧ '\n' ∉ container.toList ∧
      (∃ removals, host.tried (docker.provision image source workdir host).2 =
          docker.startCommand image workdir :: docker.copyCommand container source workdir ::
            removals ∧
        ∀ c ∈ removals, c = docker.removeCommand container) ∧
      ∀ other, (docker.provision image source workdir host).1 = .ok other → other = container

/-! ## The name in what was written -/

theorem containerOf_of_blank {bytes : Bytes}
    (h : isBlankText (Text.Utf8.decodeLossy bytes) = true) : containerOf (textOf bytes) = "" := by
  have hempty : textOf bytes = "" := Text.trim_eq_empty_iff.mpr h
  rw [hempty]
  rfl

/-- The name is the last line that is not blank, without its blank ends. -/
theorem exists_containerOf {bytes : Bytes}
    (h : isBlankText (Text.Utf8.decodeLossy bytes) = false) :
    ∃ line, LastFilled ((Text.Utf8.decodeLossy bytes).toList.splitOn '\n') line ∧
      containerOf (textOf bytes) = Text.trim (String.ofList line) := by
  obtain ⟨line, hlast, hstrip⟩ := Text.exists_lastFilled (Text.exists_not_blank h)
  refine ⟨line, hlast, ?_⟩
  unfold containerOf textOf
  simp only [← String.toList_inj, Text.toList_trim, String.toList_ofList, hstrip]

theorem tidy_containerOf {bytes : Bytes}
    (h : isBlankText (Text.Utf8.decodeLossy bytes) = false) :
    Tidy (containerOf (textOf bytes)) := by
  obtain ⟨line, ⟨-, -, -, ⟨c, hc, hfilled⟩, -⟩, hname⟩ := exists_containerOf h
  rw [hname]
  refine Text.tidy_trim (Bool.eq_false_iff.mpr fun hblank => ?_)
  rw [isBlankText, String.toList_ofList, List.all_eq_true] at hblank
  rw [hblank c hc] at hfilled
  cases hfilled

theorem newline_notMem_containerOf (output : String) : '\n' ∉ (containerOf output).toList := by
  unfold containerOf
  rw [Text.toList_trim, String.toList_ofList]
  exact fun h => Text.newline_notMem_lastLine _ (Text.mem_of_mem_strip h)

/-- The engine names no container exactly when all that it writes is blank. -/
theorem containerOf_eq_empty_iff (bytes : Bytes) :
    containerOf (textOf bytes) = "" ↔ isBlankText (Text.Utf8.decodeLossy bytes) = true := by
  refine ⟨fun hempty => ?_, containerOf_of_blank⟩
  by_contra hfilled
  exact (tidy_containerOf (Bool.eq_false_iff.mpr hfilled)).filled hempty

/-! ## The name in a provision -/

/-- Whatever comes of a copy, no container but this one is named in it, and the failure is not that
there is no container. -/
theorem copy_names (docker : Docker) (container source workdir : String) (host : Host) :
    (∀ image errors, (docker.copy container source workdir host).1 ≠
        .error (.provisionFailed image errors)) ∧
      (∀ other, (docker.copy container source workdir host).1 = .ok other → other = container) ∧
      ∃ removals, (docker.copy container source workdir host).2.attempts.map Attempt.command =
          host.attempts.map Attempt.command ++
            docker.copyCommand container source workdir :: removals ∧
        ∀ c ∈ removals, c = docker.removeCommand container := by
  cases hlaunch : host.launch (docker.copyCommand container source workdir) with
  | error cause =>
    rw [copy_of_refused hlaunch]
    exact ⟨nofun, nofun, [], by simp, nofun⟩
  | ok b =>
    by_cases hend : b.ending = .exited 0
    · rw [copy_of_success hlaunch hend]
      exact ⟨nofun, fun other hother => (Except.ok.inj hother).symm, [], by simp, nofun⟩
    · rw [copy_of_failure hlaunch hend]
      exact ⟨nofun, nofun, [docker.removeCommand container], by simp, by simp⟩

/-- A container that was started well is named by the last line that is not blank. -/
theorem provision_named (docker : Docker) (image source workdir : String) (host : Host)
    (b : Behaviour) (hlaunch : host.launch (docker.startCommand image workdir) = .ok b)
    (hend : b.ending = .exited 0) : docker.NamedBy image source workdir host b.output := by
  cases hblank : isBlankText (Text.Utf8.decodeLossy b.output) with
  | true =>
    have hnameless : ¬ (b.ending = .exited 0 ∧ containerOf (textOf b.output) ≠ "") :=
      fun hname => hname.2 (containerOf_of_blank hblank)
    constructor
    · rw [provision_of_nameless hlaunch hnameless, hblank]
      exact ⟨fun _ => rfl, fun _ => ⟨image, _, rfl⟩⟩
    · rw [hblank]
      exact nofun
  | false =>
    have htidy := tidy_containerOf hblank
    have hprovision := @provision_of_bringsUp docker image source workdir host
      (containerOf (textOf b.output)) ⟨b, hlaunch, hend, rfl, htidy.filled⟩
    obtain ⟨hfailure, hgiven, removals, htried, hremovals⟩ := copy_names docker
      (containerOf (textOf b.output)) source workdir
      (host.start (docker.startCommand image workdir)).2
    obtain ⟨line, hline, hname⟩ := exists_containerOf hblank
    constructor
    · rw [hprovision, hblank]
      exact ⟨fun ⟨image', errors, h⟩ => absurd h (hfailure image' errors), nofun⟩
    · intro _
      rw [hprovision]
      refine ⟨line, _, hline, hname, htidy, newline_notMem_containerOf _, ⟨removals, ?_,
        hremovals⟩, hgiven⟩
      refine Host.tried_of_append (htried.trans ?_)
      rw [Host.attempts_start, List.map_append, List.append_assoc]
      rfl

/-- A host on which the engine shows its progress before the container, and blank lines of several
kinds behind it, and on which nothing can be copied. -/
def chattyStart : Host where
  respond _ c :=
    if c.arguments.head? = some "run" then
      .ok { output := Text.Utf8.encode "Pulling\r\n\n\u2003c0ffee \r\n\u00a0\r\n\x0b\n\u2028" }
    else .ok { ending := .exited 1 }

theorem chattyStart_named :
    (∃ b, chattyStart.launch ((Docker.mk "docker").startCommand "sdk" "/src") = .ok b ∧
      b.ending = .exited 0 ∧ (Docker.mk "docker").NamedBy "sdk" "." "/src" chattyStart b.output) ∧
    (chattyStart.tried ((Docker.mk "docker").provision "sdk" "." "/src" chattyStart).2).map
        Command.arguments = [
      ["run", "-d", "--rm", "-w", "/src", "sdk", "sleep", "infinity"],
      ["cp", "./.", "c0ffee:/src"],
      ["rm", "-f", "c0ffee"]] :=
  ⟨⟨_, rfl, rfl, provision_named ⟨"docker"⟩ "sdk" "." "/src" chattyStart _ rfl rfl⟩, by decide⟩

end Stagehand.Docker
