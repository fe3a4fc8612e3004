import Stagehand.Proofs.Container.BuildAttempts
import Stagehand.Proofs.Container.ContainerName
/-!
# How a build turns out

What a build attempts falls into three classes: all went well (`WentWell`), a stage ended badly, or
something before or in place of a stage went wrong (`Halted`). The result of the build is settled by
the class: zero in the first (`Built.eq_zero_iff`), the status of the stage in the second
(`Built.of_bad_stage`), and an error in the third (`Built.not_ok_of_halted`).
-/

namespace Stagehand.Docker

/-- The attempt is one to run a stage of the build. -/
def IsStage (docker : Docker) (settings : BuildSettings) (a : Attempt) : Prop :=
  ∃ container, ∃ stage ∈ stages, a.command = docker.stageCommand container settings.workdir stage

/-- The attempt ended well and wrote something that is not blank. -/
def Up (a : Attempt) : Prop :=
  ∃ b, a.launch = .ok b ∧ b.ending = .exited 0 ∧
    Text.isBlankText (Text.Utf8.decodeLossy b.output) = false

/-- A container came up, the sources were copied into it, and in it all stages ran and ended
well. -/
def WentWell (docker : Docker) (settings : BuildSettings) (attempts : List Attempt) : Prop :=
  ∃ started copied executed later container,
    attempts = started :: copied :: (executed ++ later) ∧
    started.command = docker.startCommand settings.image settings.workdir ∧
    Up started ∧ Names started container ∧
    copied.command = docker.copyCommand container settings.source settings.workdir ∧
    copied.EndedWith (.exited 0) ∧
    executed.map Attempt.command =
      stages.map (docker.stageCommand container settings.workdir) ∧
    ∀ a ∈ executed, a.EndedWith (.exited 0)

/-- An attempt other than a removal went wrong, and was no stage that ended badly. -/
inductive Halted (docker : Docker) (settings : BuildSettings) (attempts : List Attempt) : Prop
  | noContainer (a : Attempt) : a ∈ attempts →
    a.command = docker.startCommand settings.image settings.workdir → ¬ Up a →
    Halted docker settings attempts
  | notCopied (a : Attempt) (container : String) : a ∈ attempts →
    a.command = docker.copyCommand container settings.source settings.workdir →
    ¬ a.EndedWith (.exited 0) → Halted docker settings attempts
  | notStarted (a : Attempt) (cause : SystemError) : a ∈ attempts → docker.IsStage settings a →
    a.launch = .error cause → Halted docker settings attempts

/-- The first argument tells the command of a stage from those that start a container, copy into it
and remove it. -/
theorem IsStage.head?_arguments {docker : Docker} {settings : BuildSettings} {a : Attempt}
    (h : docker.IsStage settings a) : a.command.arguments.head? = some "exec" := by
  obtain ⟨container, stage, -, hcommand⟩ := h
  rw [hcommand]
  rfl

/-! ## The classes -/

theorem up_iff (a : Attempt) : Up a ↔ ∃ container, Names a container := by
  constructor
  · rintro ⟨b, hlaunch, hend, hblank⟩
    refine ⟨_, b, hlaunch, hend, rfl, ?_⟩
    intro hempty
    rw [containerOf_eq_empty_iff, hblank] at hempty
    cases hempty
  · rintro ⟨_, b, hlaunch, hend, rfl, hne⟩
    exact ⟨b, hlaunch, hend, Bool.eq_false_iff.mpr (mt (containerOf_eq_empty_iff _).mpr hne)⟩

section Built

variable {docker : Docker} {settings : BuildSettings} {attempts : List Attempt}
  {result : Except BuildError Int}

theorem Ran.isStage {container : String}
    (h : Ran docker container settings.workdir stages attempts result) {a : Attempt}
    (ha : a ∈ attempts) : docker.IsStage settings a := by
  have hmem := List.mem_map_of_mem (f := Attempt.command) ha
  rw [h.commands] at hmem
  obtain ⟨stage, hstage, hcommand⟩ := List.mem_map.mp hmem
  exact ⟨container, stage, List.mem_of_mem_take hstage, hcommand.symm⟩

/-- The stages that a build attempts are those that it runs in its container. -/
theorem Built.ran_of_isStage (h : Built docker settings attempts result) {a : Attempt}
    (ha : a ∈ attempts) (hstage : docker.IsStage settings a) :
    ∃ container executed, Ran docker container settings.workdir stages executed result ∧
      a ∈ executed := by
  have hexec := hstage.head?_arguments
  cases h with
  | noContainer e hstarted =>
    obtain rfl := List.mem_singleton.mp ha
    simp [hstarted, startCommand] at hexec
  | notCopied e hstarted _ hcopied _ hremovals =>
    simp only [List.mem_cons] at ha
    obtain rfl | rfl | hmem := ha
    · simp [hstarted, startCommand] at hexec
    · simp [hcopied, copyCommand] at hexec
    · simp [hremovals a hmem, removeCommand] at hexec
  | ran hstarted _ hcopied _ hran hremoved =>
    simp only [List.mem_cons, List.mem_append, List.not_mem_nil, or_false] at ha
    obtain rfl | rfl | hmem | rfl := ha
    · simp [hstarted, startCommand] at hexec
    · simp [hcopied, copyCommand] at hexec
    · exact ⟨_, _, hran, hmem⟩
    · simp [hremoved, removeCommand] at hexec

/-- A stage that ended badly settles the result. -/
theorem Built.of_bad_stage (h : Built docker settings attempts result) {a : Attempt}
    {ending : Ending} (ha : a ∈ attempts) (hstage : docker.IsStage settings a)
    (hended : a.EndedWith ending) (hbad : ending ≠ .exited 0) : result = .ok ending.status := by
  obtain ⟨container, executed, hran, hmem⟩ := h.ran_of_isStage ha hstage
  obtain hwell | ⟨other, hother, -, hresult⟩ | ⟨cause, hlaunch, -⟩ := hran.of_mem hmem
  · exact absurd (hended.unique hwell) hbad
  · rw [hresult, hended.unique hother]
  · exact absurd hlaunch hended.not_refused

/-- A build that was halted gives no status. -/
theorem Built.not_ok_of_halted (h : Built docker settings attempts result)
    (hhalted : Halted docker settings attempts) (code : Int) : result ≠ .ok code := by
  rintro rfl
  cases hhalted with
  | notStarted a cause ha hstage hlaunch =>
    obtain ⟨container, executed, hran, hmem⟩ := h.ran_of_isStage ha hstage
    obtain hwell | ⟨ending, hended, -⟩ | ⟨cause, -, hresult⟩ := hran.of_mem hmem
    · exact absurd hlaunch hwell.not_refused
    · exact absurd hlaunch hended.not_refused
    · cases hresult
  | noContainer a ha hcommand hdown =>
    obtain _ | _ | ⟨hstarted, hnames, hcopied, hwell, hran, hremoved⟩ := h
    simp only [List.mem_cons, List.mem_append, List.not_mem_nil, or_false] at ha
    obtain rfl | rfl | hmem | rfl := ha
    · exact hdown ((up_iff a).mpr ⟨_, hnames⟩)
    · simp [hcommand, startCommand, copyCommand] at hcopied
    · have hexec := (hran.isStage hmem).head?_arguments
      simp [hcommand, startCommand] at hexec
    · simp [hcommand, startCommand, removeCommand] at hremoved
  | notCopied a container ha hcommand hbad =>
    obtain _ | _ | ⟨hstarted, hnames, hcopied, hwell, hran, hremoved⟩ := h
    simp only [List.mem_cons, List.mem_append, List.not_mem_nil, or_false] at ha
    obtain rfl | rfl | hmem | rfl := ha
    · simp [hcommand, startCommand, copyCommand] at hstarted
    · exact hbad hwell
    · have hexec := (hran.isStage hmem).head?_arguments
      simp [hcommand, copyCommand] at hexec
    · simp [hcommand, copyCommand, removeCommand] at hremoved

/-- There is no fourth class. -/
theorem Built.classes (h : Built docker settings attempts result) :
    WentWell docker settings attempts ∨
      (∃ a ∈ attempts, docker.IsStage settings a ∧
        ∃ ending, a.EndedWith ending ∧ ending ≠ .exited 0) ∨
      Halted docker settings attempts := by
  cases h with
  | @noContainer started e hstarted hnone =>
    have hdown : ¬ Up started := by
      intro hup
      obtain ⟨container, hnames⟩ := (up_iff started).mp hup
      exact hnone container hnames
    exact .inr (.inr (.noContainer started (by simp) hstarted hdown))
  | @notCopied container started copied _ e _ _ hcopied hbad _ =>
    exact .inr (.inr (.notCopied copied container (by simp) hcopied hbad))
  | @ran container started copied removed executed _ hstarted hnames hcopied hwell hran _ =>
    have hmem {a : Attempt} (ha : a ∈ executed) :
        a ∈ started :: copied :: (executed ++ [removed]) := by simp [ha]
    obtain ⟨hlength, hall, -⟩ | ⟨passed, a, hexecuted, -, hlast⟩ := hran.outcome
    · have hcommands := hran.commands
      rw [hlength, List.take_length] at hcommands
      exact .inl ⟨started, copied, executed, [removed], container, rfl, hstarted,
        (up_iff started).mpr ⟨container, hnames⟩, hnames, hcopied, hwell, hcommands, hall⟩
    · have ha : a ∈ executed := by simp [hexecuted]
      obtain ⟨ending, hended, hbad, -⟩ | ⟨cause, hlaunch, -⟩ := hlast
      · exact .inr (.inl ⟨a, hmem ha, hran.isStage ha, ending, hended, hbad⟩)
      · exact .inr (.inr (.notStarted a cause (hmem ha) (hran.isStage ha) hlaunch))

theorem Built.of_wentWell (h : Built docker settings attempts result)
    (hwent : WentWell docker settings attempts) : result = .ok 0 := by
  obtain ⟨started, copied, executed, later, container, rfl, -, hup, -, -, hcopied, hcommands,
    hall⟩ := hwent
  generalize hattempts : started :: copied :: (executed ++ later) = attempts at h
  cases h with
  | noContainer => cases hattempts
  | notCopied e _ _ _ hbad =>
    obtain ⟨rfl, rfl, -⟩ : _ ∧ _ ∧ _ := by simpa using hattempts
    exact absurd hcopied hbad
  | @ran _ _ _ removed attempted _ _ _ _ _ hran _ =>
    have htail : executed ++ later = attempted ++ [removed] := by
      simpa using (List.cons.inj (List.cons.inj hattempts).2).2
    -- No more stages were attempted than ended well.
    have hexecuted : executed.length = stages.length := by
      simpa using congrArg List.length hcommands
    have hlength : attempted.length ≤ executed.length := by
      rw [hexecuted]
      exact hran.length_le
    have htaken : attempted = executed.take attempted.length := by
      rw [← List.take_append_of_le_length hlength, htail, List.take_left]
    have hwell : ∀ a ∈ attempted, a.EndedWith (.exited 0) := by
      intro a ha
      rw [htaken] at ha
      exact hall a (List.mem_of_mem_take ha)
    exact (hran.of_all_well hwell).2

/-- The result is zero exactly when all went well. -/
theorem Built.eq_zero_iff (h : Built docker settings attempts result) :
    result = .ok 0 ↔ WentWell docker settings attempts := by
  refine ⟨?_, h.of_wentWell⟩
  intro hzero
  obtain hwent | ⟨a, ha, hstage, ending, hended, hbad⟩ | hhalted := h.classes
  · exact hwent
  · have hstatus := h.of_bad_stage ha hstage hended hbad
    rw [hzero, Except.ok.injEq, eq_comm, Ending.status_eq_zero_iff] at hstatus
    exact absurd hstatus hbad
  · exact absurd hzero (h.not_ok_of_halted hhalted 0)

end Built

/-! ## Starting a container -/

/-- A container is started first of all, and only then. -/
theorem Built.starts_once {docker : Docker} {settings : BuildSettings} {attempts : List Attempt}
    {result : Except BuildError Int} (h : Built docker settings attempts result) :
    ∃ started later, attempts = started :: later ∧
      started.command = docker.startCommand settings.image settings.workdir ∧
      ∀ a ∈ later, a.command.arguments.head? ≠ some "run" := by
  cases h with
  | noContainer e hstarted => exact ⟨_, [], rfl, hstarted, nofun⟩
  | notCopied e hstarted _ hcopied _ hremovals =>
    refine ⟨_, _, rfl, hstarted, List.forall_mem_cons.mpr ⟨by simp [hcopied, copyCommand], ?_⟩⟩
    intro a ha
    simp [hremovals a ha, removeCommand]
  | ran hstarted _ hcopied _ hran hremoved =>
    refine ⟨_, _, rfl, hstarted, List.forall_mem_cons.mpr ⟨by simp [hcopied, copyCommand], ?_⟩⟩
    intro a ha
    rcases List.mem_append.mp ha with hstage | hlast
    · simp [(hran.isStage hstage).head?_arguments]
    · obtain rfl := List.mem_singleton.mp hlast
      simp [hremoved, removeCommand]

/-- A provision that finds no container names its own image. -/
theorem image_of_provisionFailed {docker : Docker} {image source workdir image' errors : String}
    {host : Host} (h : (docker.provision image source workdir host).1 =
      .error (.provisionFailed image' errors)) : image' = image := by
  by_cases hup : ∃ container, docker.BringsUp image workdir container host
  · obtain ⟨container, hup⟩ := hup
    rw [provision_of_bringsUp hup] at h
    exact absurd h ((copy_names docker container source workdir _).1 image' errors)
  · cases hlaunch : host.launch (docker.startCommand image workdir) with
    | error cause =>
      rw [provision_of_refused hlaunch] at h
      cases h
    | ok b =>
      have hbad : ¬ (b.ending = .exited 0 ∧ containerOf (textOf b.output) ≠ "") :=
        fun hgood => hup ⟨_, b, hlaunch, hgood.1, rfl, hgood.2⟩
      rw [provision_of_nameless hlaunch hbad] at h
      cases h
      rfl

/-- A build that fails for want of a container names its own image, and complains of nothing. -/
theorem run_of_provisionFailed {docker : Docker} {settings : BuildSettings} {host : Host}
    {image errors : String} (h : (Build.run docker.engine settings true host).result =
      .error (.provisionFailed image errors)) :
    image = settings.image ∧ (Build.run docker.engine settings true host).trace.errors = [] := by
  rcases hasked : Build.asked docker.engine settings host with ⟨e | container, world⟩
  · rw [Build.run_of_refused hasked] at h ⊢
    obtain rfl : e = .provisionFailed image errors := Except.error.inj h
    exact ⟨image_of_provisionFailed (congrArg Prod.fst hasked), rfl⟩
  · rw [Build.run_of_container hasked] at h
    obtain ⟨attempts, removed, -, hran, -⟩ :=
      runInContainer_ran docker container settings.workdir stages world
    have hresult : (Build.runInContainer docker.engine container settings.workdir stages
      world).result = .error (.provisionFailed image errors) := h
    rw [hresult] at hran
    obtain ⟨-, -, hok⟩ | ⟨-, -, -, -, ⟨ending, -, -, hok⟩ | ⟨cause, -, hcause⟩⟩ := hran.outcome
    · cases hok
    · cases hok
    · cases hcause

end Stagehand.Docker
