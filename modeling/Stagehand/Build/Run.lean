import Stagehand.Container.Engine
import Stagehand.Build.Plan
/-!
# Running the stages

A build brings up a container, runs the stages in it until one does not end with zero, and removes
the container whatever came of them. Its result is what came of the last stage that ran. The trace
holds all calls of the engine with their replies, and all lines of the report.
-/

namespace Stagehand.Build

/-- One step of a build. -/
inductive Event
  /-- A line of the report. -/
  | report (line : String)
  /-- A line about a stage that failed. -/
  | complain (line : String)
  /-- A container is asked for. -/
  | provision (image source workdir : String) (reply : Except BuildError String)
  /-- A command is run in the container. -/
  | exec (container workdir : String) (arguments : List String) (reply : ExecReply)
  /-- The container is removed. -/
  | teardown (container : String) (reply : Except BuildError Unit)

/-- The steps of a build in order. -/
abbrev Trace := List Event

/-- What a step writes to standard output and to standard error. -/
def Event.shown : Event → Shown
  | .report line => { output := Text.Utf8.encode (line ++ "\n") }
  | .complain line => { errors := Text.Utf8.encode (line ++ "\n") }
  | .exec _ _ _ reply => reply.shown
  | .provision .. | .teardown .. => {}

/-- What a build writes to standard output. -/
def Trace.output (trace : Trace) : Bytes :=
  trace.flatMap (·.shown.output)

/-- What a build writes to standard error. -/
def Trace.errors (trace : Trace) : Bytes :=
  trace.flatMap (·.shown.errors)

/-- What a build, or a part of it, leads to. -/
structure Run (σ : Type) where
  trace : Trace
  result : Except BuildError Int
  world : σ

variable {σ : Type}

/-- The run preceded by what had happened before. -/
def Run.after (happened : Trace) (run : Run σ) : Run σ :=
  { run with trace := happened ++ run.trace }

/-- The line that announces a stage. -/
def announcement (number total : Nat) (stage : Stage) : String :=
  s!"  [RUN]  ({number}/{total}) {stage.commandLine}"

/-- Runs the stages that remain, of which the first has the given number, and stops at the first
that does not end with zero. -/
def runStages (engine : Engine σ) (container workdir : String) (number total : Nat) :
    List Stage → σ → Run σ
  | [], s => ⟨[], .ok 0, s⟩
  | stage :: rest, s =>
    let (reply, s) := engine.exec container workdir stage.arguments s
    let ran : Trace := [
      .report (announcement number total stage),
      .exec container workdir stage.arguments reply]
    match reply.result with
    | .error e => ⟨ran, .error e, s⟩
    | .ok code =>
      if code = 0 then
        (runStages engine container workdir (number + 1) total rest s).after
          (ran ++ [.report s!"  [DONE] {stage.name}"])
      else
        ⟨ran ++ [.complain s!"  [FAIL] {stage.name} exited with code {code}"], .ok code, s⟩

/-- Runs the stages in a container that is up, and removes it. -/
def runInContainer (engine : Engine σ) (container workdir : String) (plan : List Stage) (s : σ) :
    Run σ :=
  let run := runStages engine container workdir 1 plan.length plan s
  let (reply, s) := engine.teardown container run.world
  ⟨run.trace ++ [.teardown container reply], run.result, s⟩

/-- Runs a build; `sourceFound` says that the sources are a directory. -/
def run (engine : Engine σ) (settings : BuildSettings) (sourceFound : Bool) (s : σ) : Run σ :=
  if sourceFound then
    let image := settings.image
    let (reply, s) := engine.provision image settings.source settings.workdir s
    let asked : Trace := [
      .report s!"Provisioning {image} ...",
      .provision image settings.source settings.workdir reply]
    match reply with
    | .error e => ⟨asked, .error e, s⟩
    | .ok container => (runInContainer engine container settings.workdir stages s).after asked
  else ⟨[], .error (.missingSource settings.source), s⟩

end Stagehand.Build
