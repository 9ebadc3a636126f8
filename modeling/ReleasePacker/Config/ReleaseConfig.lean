import ReleasePacker.Config.Manifest
import ReleasePacker.Tool.Settings
import ReleasePacker.Describe

/-!
# Release configurations

Everything that a run needs to know.
-/

namespace ReleasePacker

/-- The configuration of a release. -/
structure ReleaseConfig where
  /-- What the archive's name starts with. -/
  name : String
  /-- The name of the built binary. -/
  binaryName : String
  /-- The target asked for. -/
  target : Option String
  version : VersionSource
  projectRoot : Path
  /-- Where the archive goes. -/
  outputDir : Path
  /-- Where the tool builds. -/
  buildDir : Path
  manifest : Manifest
  tool : ToolSettings
  skipTests : Bool
  /-- How often the tool is asked to say more. -/
  verbosity : Nat
  /-- How many seconds a program may run. -/
  timeout : Option Nat
  /-- Where the staging folder goes. -/
  stagingParent : Option Path
  deriving DecidableEq

/-- What archives are named for, and the binary. -/
def standardName : String := "kak-lsp"

/-- Whether a text is one plain file name; the answer for one that is not says why. -/
def validateName (name : String) : Except ReleaseError Unit :=
  if name.toList.isEmpty then .error (.invalidConfig "name is empty")
  else if name.toList.any VersionLabel.isForbidden || name = "." || name = ".." then
    .error (.invalidConfig ("name \"" ++ name ++ "\" must be a plain file name"))
  else .ok ()

namespace ReleaseConfig

/-- The configuration of a project that says nothing. -/
def forProject (projectRoot : Path) : ReleaseConfig where
  name := standardName
  binaryName := standardName
  target := none
  version := .describe
  projectRoot := projectRoot
  outputDir := projectRoot
  buildDir := projectRoot / "target"
  manifest := .standard
  tool := {}
  skipTests := false
  verbosity := 0
  timeout := none
  stagingParent := none

/-- Whether a configuration can be used; the answer for one that cannot is its first fault. -/
def validate (config : ReleaseConfig) : Except ReleaseError Unit := do
  validateName config.name
  validateName config.binaryName
  if Text.isBlankText config.tool.program then throw (.invalidConfig "tool program is empty")
  if config.timeout = some 0 then throw (.invalidConfig "timeout must be at least one second")

end ReleaseConfig
end ReleasePacker
