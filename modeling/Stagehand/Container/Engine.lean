import Stagehand.Build.Error
import Stagehand.System.Process
/-!
# Container engines

What a build needs of a container engine: to bring up a container with a copy of the sources, to run
commands in it, and to remove it. What a command in the container writes goes straight to the
outputs of the build, so it is part of the reply.
-/

namespace Stagehand

/-- What went to standard output and to standard error. -/
structure Shown where
  output : Bytes := []
  errors : Bytes := []
  deriving DecidableEq, Repr

/-- What came of a command in a container: its exit code, and what it wrote. -/
structure ExecReply where
  result : Except BuildError Int
  shown : Shown := {}

/-- Someone who runs containers. -/
structure Engine (σ : Type) where
  provision : (image source workdir : String) → σ → Except BuildError String × σ
  exec : (container workdir : String) → (arguments : List String) → σ → ExecReply × σ
  teardown : (container : String) → σ → Except BuildError Unit × σ

end Stagehand
