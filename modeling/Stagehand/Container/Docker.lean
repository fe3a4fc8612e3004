import Stagehand.Container.Engine
import Stagehand.System.Host
import Stagehand.Text.Blank
import Stagehand.Text.Line
/-!
# Engines with a command line

The engine that is a program on the host, with the command line of `docker`. A container is brought
up in two steps: it is started, and the sources are copied into it. If the copy ends badly the
container is removed again.
-/

namespace Stagehand

/-- An engine program. -/
structure Docker where
  program : String

namespace Docker

/-- Whether the program can be found. -/
def checkInstalled (docker : Docker) (installed : String → Bool) : Except BuildError Unit :=
  if installed docker.program then .ok () else .error (.engineNotInstalled docker.program)

/-- What came of a program whose outputs were caught: how it ended, and the two trimmed texts. -/
structure Caught where
  ending : Ending
  output : String
  errors : String

/-- The trimmed text of the bytes. -/
def textOf (bytes : Bytes) : String :=
  Text.trim (Text.Utf8.decodeLossy bytes)

/-- Runs the engine for an operation, and catches what it writes. -/
def runCaught (docker : Docker) (arguments : List String) (operation : String) (host : Host) :
    Except BuildError Caught × Host :=
  match host.start { program := docker.program, arguments } with
  | (.error cause, host) => (.error (.spawnFailed operation cause), host)
  | (.ok b, host) => (.ok ⟨b.ending, textOf b.output, textOf b.errors⟩, host)

/-- The container that the output names: its last line. -/
def containerOf (output : String) : String :=
  Text.trim (String.ofList (Text.lastLine output.toList))

/-- Removes a container. That it could not be removed is no failure. -/
def teardown (docker : Docker) (container : String) (host : Host) : Except BuildError Unit × Host :=
  let (reply, host) := docker.runCaught ["rm", "-f", container] "teardown" host
  (reply.map fun _ => (), host)

/-- Copies the content of a directory into a container, and removes the container if that ends
badly. -/
def copy (docker : Docker) (container source workdir : String) (host : Host) :
    Except BuildError String × Host :=
  match docker.runCaught ["cp", s!"{source}/.", s!"{container}:{workdir}"] "copy" host with
  | (.error e, host) => (.error e, host)
  | (.ok caught, host) =>
    if caught.ending.succeeded then (.ok container, host)
    else (.error (.copyFailed caught.errors), (docker.teardown container host).2)

/-- Starts a container from an image and copies the sources into it. -/
def provision (docker : Docker) (image source workdir : String) (host : Host) :
    Except BuildError String × Host :=
  let arguments := ["run", "-d", "--rm", "-w", workdir, image, "sleep", "infinity"]
  match docker.runCaught arguments "provision" host with
  | (.error e, host) => (.error e, host)
  | (.ok caught, host) =>
    let container := containerOf caught.output
    if caught.ending.succeeded ∧ container ≠ "" then
      docker.copy container source workdir host
    else (.error (.provisionFailed image caught.errors), host)

/-- Runs a command in a container; it writes to the outputs of the build. -/
def exec (docker : Docker) (container workdir : String) (arguments : List String) (host : Host) :
    ExecReply × Host :=
  match host.start
      { program := docker.program
        arguments := ["exec", "-w", workdir, container] ++ arguments } with
  | (.error cause, host) => ({ result := .error (.spawnFailed "exec" cause) }, host)
  | (.ok b, host) => ({ result := .ok b.ending.status, shown := ⟨b.output, b.errors⟩ }, host)

/-- The program as an engine. -/
def engine (docker : Docker) : Engine Host where
  provision := docker.provision
  exec := docker.exec
  teardown := docker.teardown

end Docker

end Stagehand
