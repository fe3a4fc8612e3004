import Mathlib.Data.List.Basic
import Stagehand.Proofs.Build.Course
/-!
# The report of a build

What a build writes is a function of the image and of the replies to the stages that ran: each stage
is announced, then comes what its command wrote, and then whether the stage is done. The two streams
are read off the course of the build separately (`output_performed`, `errors_performed`). The main
statement is `run_reports`. What an engine logs is no part of the report.
-/

namespace Stagehand.Build

/-- The commands that were run in the container, each with the reply, in order. -/
def Trace.execs (trace : Trace) : List (List String × ExecReply) :=
  trace.filterMap fun
    | .exec _ _ arguments reply => some (arguments, reply)
    | _ => none

/-! ## What is written -/

/-- The bytes of a line. -/
def lineOf (text : String) : Bytes :=
  Text.Utf8.encode (text ++ "\n")

/-- The line before anything else. -/
def provisioningLine (image : String) : Bytes :=
  lineOf s!"Provisioning {image} ..."

/-- The line before the output of a stage. -/
def runLine (number total : Nat) (stage : Stage) : Bytes :=
  lineOf s!"  [RUN]  ({number}/{total}) {stage.commandLine}"

/-- The line after the output of a stage that ended with zero. -/
def doneLine (stage : Stage) : Except BuildError Int → Bytes
  | .ok code => if code = 0 then lineOf s!"  [DONE] {stage.name}" else []
  | .error _ => []

/-- The line about a stage that ended with another code than zero. -/
def failLine (stage : Stage) : Except BuildError Int → Bytes
  | .ok code => if code = 0 then [] else lineOf s!"  [FAIL] {stage.name} exited with code {code}"
  | .error _ => []

/-- Standard output of the stages that got the replies, of which the first has the number. -/
def stagesOutput (total number : Nat) (plan : List Stage) (replies : List ExecReply) : Bytes :=
  ((plan.zip replies).zipIdx number).flatMap fun entry =>
    runLine entry.2 total entry.1.1 ++ entry.1.2.shown.output ++
      doneLine entry.1.1 entry.1.2.result

/-- The same where the commands write nothing. -/
def stagesLines (total number : Nat) (plan : List Stage) (replies : List ExecReply) : Bytes :=
  ((plan.zip replies).zipIdx number).flatMap fun entry =>
    runLine entry.2 total entry.1.1 ++ doneLine entry.1.1 entry.1.2.result

/-- The line about the last stage that got a reply, if it failed. -/
def lastComplaint (plan : List Stage) (replies : List ExecReply) : Bytes :=
  (plan.zip replies).getLast?.elim [] fun entry => failLine entry.1 entry.2.result

/-- Standard output of a build whose stages got the replies. -/
def reportOutput (image : String) (replies : List ExecReply) : Bytes :=
  provisioningLine image ++ stagesOutput 6 1 stages replies

/-- Standard error of a build whose stages got the replies. -/
def reportErrors (replies : List ExecReply) : Bytes :=
  replies.flatMap (·.shown.errors) ++ lastComplaint stages replies

/-- The replies that a build gets for its stages: the engine's, up to the first that is not zero. -/
def heard {σ : Type} (engine : Engine σ) (settings : BuildSettings) (s : σ) : List ExecReply :=
  match asked engine settings s with
  | (.error _, _) => []
  | (.ok container, world) => heeded (engine.replies container settings.workdir stages world)

/-- The trace is one of a build with the image whose stages got the replies, and reports so. -/
structure Reports (image : String) (replies : List ExecReply) (trace : Trace) : Prop where
  /-- The stages were run in order, up to some stage. -/
  execs : trace.execs = (stages.map Stage.arguments).zip replies
  bounded : replies.length ≤ stages.length
  output : trace.output = reportOutput image replies
  errors : trace.errors = reportErrors replies
  /-- Where the commands write nothing themselves, the lines are all that is written. -/
  silent : (∀ reply ∈ replies, reply.shown = {}) →
    trace.output = provisioningLine image ++ stagesLines 6 1 stages replies ∧
      trace.errors = lastComplaint stages replies

/-! ## The stages -/

theorem execs_append (t u : Trace) : Trace.execs (t ++ u) = t.execs ++ u.execs :=
  List.filterMap_append

section Performed

variable (container workdir : String) (total number : Nat)

/-- A stage that was performed is announced, shows what its command wrote, and gets its verdict. -/
theorem performed_cons (stage : Stage) (plan : List Stage) (reply : ExecReply)
    (replies : List ExecReply) :
    performed container workdir total number (stage :: plan) (reply :: replies) =
      [.report (announcement number total stage),
          .exec container workdir stage.arguments reply] ++
        verdict stage reply.result ++
          performed container workdir total (number + 1) plan replies := by
  simp [performed]

theorem execs_verdict (stage : Stage) (result : Except BuildError Int) :
    (verdict stage result).execs = [] := by
  rcases result with e | code
  · rfl
  · rw [verdict]
    split_ifs <;> rfl

theorem output_verdict (stage : Stage) (result : Except BuildError Int) :
    (verdict stage result).output = doneLine stage result := by
  rcases result with e | code
  · rfl
  · rw [verdict, doneLine]
    split_ifs
    · exact List.append_nil _
    · rfl

theorem errors_verdict (stage : Stage) (result : Except BuildError Int) :
    (verdict stage result).errors = failLine stage result := by
  rcases result with e | code
  · rfl
  · rw [verdict, failLine]
    split_ifs
    · rfl
    · exact List.append_nil _

theorem execs_performed (plan : List Stage) (replies : List ExecReply) :
    (performed container workdir total number plan replies).execs =
      (plan.map Stage.arguments).zip replies := by
  induction plan generalizing number replies with
  | nil => cases replies <;> rfl
  | cons stage plan ih =>
    cases replies with
    | nil => rfl
    | cons reply replies =>
      rw [performed_cons, execs_append, execs_append, execs_verdict, ih]
      rfl

theorem output_performed (plan : List Stage) (replies : List ExecReply) :
    (performed container workdir total number plan replies).output =
      stagesOutput total number plan replies := by
  induction plan generalizing number replies with
  | nil => cases replies <;> rfl
  | cons stage plan ih =>
    cases replies with
    | nil => rfl
    | cons reply replies =>
      rw [performed_cons, output_append, output_append, output_verdict, ih]
      simp [Trace.output, Event.shown, stagesOutput, runLine, lineOf, announcement]

theorem lastComplaint_cons (stage : Stage) {plan : List Stage} (reply : ExecReply)
    {replies : List ExecReply} (hplan : plan ≠ []) (hreplies : replies ≠ []) :
    lastComplaint (stage :: plan) (reply :: replies) = lastComplaint plan replies := by
  obtain ⟨next, plan, rfl⟩ := List.exists_cons_of_ne_nil hplan
  obtain ⟨other, replies, rfl⟩ := List.exists_cons_of_ne_nil hreplies
  unfold lastComplaint
  rw [List.zip_cons_cons, List.zip_cons_cons, List.getLast?_cons_cons]

/-- Only the last of the replies that are heeded can bring a complaint. -/
theorem errors_performed (plan : List Stage) {passed : List ExecReply} (last : ExecReply)
    (hpassed : ∀ reply ∈ passed, reply.result = .ok 0) (hlength : passed.length < plan.length) :
    (performed container workdir total number plan (passed ++ [last])).errors =
      (passed ++ [last]).flatMap (·.shown.errors) ++ lastComplaint plan (passed ++ [last]) := by
  induction passed generalizing number plan with
  | nil =>
    obtain ⟨stage, plan, rfl⟩ := List.exists_cons_of_length_pos hlength
    rw [List.nil_append, performed_cons, errors_append, errors_append, errors_verdict,
      performed_nil]
    simp [Trace.errors, Event.shown, lastComplaint]
  | cons reply passed ih =>
    obtain ⟨stage, plan, rfl⟩ := List.exists_cons_of_length_pos (Nat.zero_lt_of_lt hlength)
    obtain ⟨hreply, hpassed⟩ := List.forall_mem_cons.mp hpassed
    have hshorter : passed.length < plan.length := Nat.lt_of_succ_lt_succ hlength
    have hplan : plan ≠ [] := List.ne_nil_of_length_pos (Nat.zero_lt_of_lt hshorter)
    -- A stage that passed brings no complaint, and it is not the last.
    have hquiet : failLine stage reply.result = [] := by
      rw [hreply]
      rfl
    rw [List.cons_append, performed_cons, errors_append, errors_append, errors_verdict, hquiet,
      ih (number + 1) plan hpassed hshorter, lastComplaint_cons stage reply hplan (by simp)]
    simp [Trace.errors, Event.shown]

end Performed

/-! ## Builds -/

variable {σ : Type}

theorem stagesOutput_of_silent (total number : Nat) (plan : List Stage) {replies : List ExecReply}
    (h : ∀ reply ∈ replies, reply.shown = {}) :
    stagesOutput total number plan replies = stagesLines total number plan replies := by
  unfold stagesOutput stagesLines
  refine List.flatMap_congr fun entry hentry => ?_
  have hreply := (List.of_mem_zip (List.fst_mem_of_mem_zipIdx hentry)).2
  rw [h entry.1.2 hreply, List.append_nil]

theorem reportErrors_of_silent {replies : List ExecReply}
    (h : ∀ reply ∈ replies, reply.shown = {}) :
    reportErrors replies = lastComplaint stages replies := by
  unfold reportErrors
  rw [List.flatMap_eq_nil_iff.mpr fun reply hreply => by rw [h reply hreply], List.nil_append]

/-- What is written where the commands write nothing follows from what is written in general. -/
theorem Reports.of_shown {image : String} {replies : List ExecReply} {trace : Trace}
    (hexecs : trace.execs = (stages.map Stage.arguments).zip replies)
    (hbounded : replies.length ≤ stages.length)
    (houtput : trace.output = reportOutput image replies)
    (herrors : trace.errors = reportErrors replies) : Reports image replies trace where
  execs := hexecs
  bounded := hbounded
  output := houtput
  errors := herrors
  silent h := by
    rw [houtput, herrors, reportOutput, stagesOutput_of_silent _ _ _ h, reportErrors_of_silent h]
    exact ⟨rfl, rfl⟩

theorem output_opening (settings : BuildSettings) (reply : Except BuildError String) :
    (opening settings reply).output = provisioningLine settings.image :=
  List.append_nil _

/-- Every build reports what it did. -/
theorem run_reports (engine : Engine σ) (settings : BuildSettings) (s : σ) :
    Reports settings.image (heard engine settings s) (run engine settings true s).trace := by
  unfold heard
  rcases hasked : asked engine settings s with ⟨e | container, world⟩
  · rw [run_of_refused hasked]
    exact .of_shown rfl (Nat.zero_le _) rfl rfl
  · have hlength := length_replies engine container settings.workdir stages world
    have hne : engine.replies container settings.workdir stages world ≠ [] := by
      rw [← List.length_pos_iff, hlength]
      decide
    obtain ⟨passed, last, later, hreplies, hheeded, hpassed, -⟩ := heeded_cases hne
    obtain ⟨removed, htrace, -⟩ :=
      runInContainer_eq engine container settings.workdir stages world
    have hbounded : passed.length < stages.length := by
      rw [← hlength, hreplies, List.length_append, List.length_cons]
      omega
    simp only [hheeded]
    rw [run_of_container hasked, Run.after, htrace, hheeded]
    refine .of_shown ?_ ?_ ?_ ?_
    · rw [execs_append, execs_append, execs_performed]
      exact List.append_nil _
    · rw [List.length_append]
      exact hbounded
    · rw [output_append, output_append, output_opening, output_performed]
      exact congrArg (provisioningLine settings.image ++ ·) (List.append_nil _)
    · rw [errors_append, errors_append, errors_performed _ _ _ _ _ _ hpassed hbounded, reportErrors]
      exact List.append_nil _

end Stagehand.Build
