import Stagehand.Text.Blank
/-!
# What is built, and how

The settings of a build, and its stages. The stages run in this order in one container, and the
later ones rely on what the earlier ones leave behind.
-/

namespace Stagehand

/-- The settings of a build. -/
structure BuildSettings where
  engine : String := "docker"
  sdkVersion : String := "9.0.300"
  /-- The path, as it is displayed, of the directory whose content is built: what of the path is not
  text is replaced. -/
  source : String := "."
  /-- Where the sources lie in the container. -/
  workdir : String := "/src"
  deriving DecidableEq, Repr

namespace BuildSettings

/-- The version that a text names; a blank text names the default. -/
def versionOf (s : String) : String :=
  match Text.trim s with
  | "" => "9.0.300"
  | version => version

/-- The settings for an engine, a version and a source directory. -/
def of (engine version source : String) : BuildSettings :=
  { engine, sdkVersion := versionOf version, source }

/-- The image that the container is made from. -/
def image (settings : BuildSettings) : String :=
  "mcr.microsoft.com/dotnet/sdk:" ++ settings.sdkVersion

end BuildSettings

/-- A command that is run in the container. -/
structure Stage where
  name : String
  arguments : List String
  deriving DecidableEq, Repr

/-- The command on one line. -/
def Stage.commandLine (stage : Stage) : String :=
  " ".intercalate stage.arguments

/-- The stages of a build. -/
def stages : List Stage := [
  ⟨"restore", ["dotnet", "restore"]⟩,
  ⟨"tool restore", ["dotnet", "tool", "restore"]⟩,
  ⟨"build", ["dotnet", "build", "--no-restore", "-c", "Release"]⟩,
  ⟨"test", ["dotnet", "test", "--no-build", "--no-restore", "-c", "Release"]⟩,
  ⟨"pack", ["dotnet", "pack", "--no-build", "-c", "Release"]⟩,
  ⟨"docs", ["dotnet", "docfx", "docs/docfx.json"]⟩]

end Stagehand
