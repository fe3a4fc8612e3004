import Stagehand.Build.Run
import Stagehand.Container.Docker
import Stagehand.Program.Surroundings
/-!
# The command `build-driver`

It builds the project in a directory in a container, and exits with the code of the last stage that
ran, or with 1 where no stage gave one that fits.
-/

namespace Stagehand.Program.BuildCommand

/-- The options. -/
def grammar : Grammar where
  settings := [
    ⟨"dotnet-version", "DOTNET_VERSION", .any⟩,
    ⟨"engine", "ENGINE", .any⟩,
    ⟨"source", "SOURCE", .filled⟩]
  switches := commonSwitches

/-- The variable that names the version. -/
def versionVariable : String := "DOTNET_VERSION"

/-- The help text, which shows the value of the version variable; a line break in it is followed by
the indent of the help texts. The next option is marked, so that a control sequence in the value
ends there. -/
def help (environment : Variables) : String :=
  let value := Text.Utf8.decodeLossy ((environment versionVariable).getD [])
  let shown := ("\n" ++ String.ofList (List.replicate 10 ' ')).intercalate (value.splitOn "\n")
  "Restore, build, test, pack and document a .NET project in a containerized SDK\n\n" ++
  "Usage: build-driver [OPTIONS]\n\n" ++
  "Options:\n" ++
  "      --dotnet-version <DOTNET_VERSION>\n" ++
  "          SDK image tag [env: DOTNET_VERSION=" ++ shown ++ "] [default: 9.0.300]\n" ++
  "      " ++ Text.marked "--engine" ++ " <ENGINE>\n" ++
  "          Container engine executable (docker-compatible CLI) [default: docker]\n" ++
  "      --source <SOURCE>\n" ++
  "          Project source directory [default: .]\n" ++
  "  -v, --verbose\n" ++
  "          Enable debug logging\n" ++
  "  -h, --help\n" ++
  "          Print help\n" ++
  "  -V, --version\n" ++
  "          Print version\n"

/-- The version line. -/
def version : String := "build-driver 0.1.0\n"

/-- The version asked for: on the command line, else by the variable, which then must hold text. -/
def versionAsked (given : Given) (environment : Variables) : Except UsageError String :=
  match given.value? "dotnet-version", environment versionVariable with
  | some value, _ => .ok value
  | none, none => .ok "9.0.300"
  | none, some bytes =>
    match Text.Utf8.decode? bytes with
    | some value => .ok value
    | none => .error .notText

/-- The settings of the build. -/
def settings (given : Given) (version : String) : BuildSettings :=
  .of ((given.value? "engine").getD "docker") version ((given.value? "source").getD ".")

/-- The exit code for the code of a stage: 1 for one that does not fit. -/
def exitCode (code : Int) : UInt8 :=
  if 0 ≤ code ∧ code ≤ 255 then UInt8.ofNat code.toNat else 1

/-- The report of a build. -/
def ofRun (run : Build.Run Host) : Report :=
  match run.result with
  | .ok code => ⟨exitCode code, run.trace.output, run.trace.errors, run.world⟩
  | .error e =>
    let line := Report.failureLine "Build pipeline could not run" e.message e.causes
    ⟨Report.failure, run.trace.output, run.trace.errors ++ Text.Utf8.encode line, run.world⟩

/-- An ordinary run. -/
def runWith (settings : BuildSettings) (s : Surroundings) : Report :=
  let docker : Docker := ⟨settings.engine⟩
  match docker.checkInstalled s.installed with
  | .error e => .failed s.host "A container engine is required" e.message e.causes
  | .ok () =>
    ofRun (Build.run docker.engine settings (s.isDirectory settings.source) s.host)

/-- The command. -/
def run (s : Surroundings) : Report :=
  match grammar.read s.arguments with
  | .error stop => .stopped s.host (help s.environment) version stop
  | .ok given =>
    match versionAsked given s.environment with
    | .error e => .stopped s.host (help s.environment) version (.refused e)
    | .ok version => runWith (settings given version) s

end Stagehand.Program.BuildCommand
