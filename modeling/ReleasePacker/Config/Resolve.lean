import ReleasePacker.CommandLine.Options
import ReleasePacker.Config.Environment
import ReleasePacker.Config.ProjectFile
import ReleasePacker.Config.ReleaseConfig

/-!
# Putting a configuration together

Each setting is taken from the first source that has it: the command line, the variables of the
environment if they are asked for, the project's release file, and the standard.
-/

namespace ReleasePacker

/-- What a process knows about its surroundings. -/
structure ProcessContext where
  workingDirectory : Path
  home : Path
  /-- The folder of the package manager, if a variable gives it. -/
  cargoHome : Option Path := none
  /-- The folder that the package manager builds in, if a variable gives it. -/
  cargoTargetDir : Option Path := none
  releaseVariables : ReleaseVariables := {}

namespace ProcessContext

/-- The value of a variable that holds a path; an empty one counts as unset. -/
def pathVariable (lookup : String → Option String) (name : String) : Option Path :=
  ((lookup name).filter fun value => !value.toList.isEmpty).map Path.mk

/-- What a process with an environment knows. -/
def ofLookup (workingDirectory home : Path) (lookup : String → Option String) :
    ProcessContext where
  workingDirectory := workingDirectory
  home := home
  cargoHome := pathVariable lookup "CARGO_HOME"
  cargoTargetDir := pathVariable lookup "CARGO_TARGET_DIR"
  releaseVariables := .ofLookup lookup

/-- What a process knows, if it can tell its working directory and the name of that is text. -/
def ofProcess (workingDirectory : Except IoError Bytes) (home : Path)
    (lookup : String → Option String) : Except ReleaseError ProcessContext :=
  match workingDirectory with
  | .error error =>
    .error (.invalidConfig ("cannot determine the working directory: " ++ error.message))
  | .ok bytes =>
    match Utf8.decode? bytes with
    | some text => .ok (ofLookup ⟨text⟩ home lookup)
    | none =>
      .error (.invalidConfig ("working directory " ++ Utf8.decodeLossy bytes ++ " is not UTF-8"))

end ProcessContext

/-- A path seen from a base, or the base itself. -/
def anchored (base : Path) : Option Path → Path
  | some path => base / path
  | none => base

namespace Options

/-- The directory of the project. -/
def projectDirectory (options : Options) (context : ProcessContext) : Path :=
  anchored context.workingDirectory options.projectRoot

/-- The variables that count: all of them, or none. -/
def countedVariables (options : Options) (context : ProcessContext) : ReleaseVariables :=
  if options.fromEnv then context.releaseVariables else {}

/-- The source of the version label: the first tag that is given, or the repository. -/
def versionSource : Option String → Except ReleaseError VersionSource
  | some tag => (parseVersion tag).map .given
  | none => .ok .describe

/-- The configuration from all sources, not yet validated. -/
def merge (options : Options) (context : ProcessContext) (file : ProjectFile) :
    Except ReleaseError ReleaseConfig := do
  let projectRoot := options.projectDirectory context
  let counted := options.countedVariables context
  let version ← versionSource (options.tag <|> counted.tag)
  let tool : ToolSettings :=
    { program := (options.tool <|> file.tool).getD standardTool
      version := file.toolVersion.getD standardToolVersion
      installFolder := some (installFolder
        (context.cargoHome.map fun home => context.workingDirectory / home) context.home)
      skipInstall := options.skipInstall }
  return {
    name := (options.name <|> counted.crateName <|> file.name).getD standardName
    binaryName := (options.binary <|> file.binary).getD standardName
    target := options.target <|> counted.target
    version
    projectRoot
    outputDir := anchored context.workingDirectory options.outputDir
    buildDir := projectRoot / context.cargoTargetDir.getD ⟨"target"⟩
    manifest := file.manifest
    tool
    skipTests := options.skipTests
    verbosity := options.verbosity
    timeout := options.timeout
    stagingParent := none }

/-- The configuration of a release. -/
def resolve (options : Options) (context : ProcessContext) (files : FileSystem) :
    Except ReleaseError ReleaseConfig := do
  let file ← ProjectFile.load files (options.projectDirectory context)
  let config ← options.merge context file
  config.validate
  return config

end Options
end ReleasePacker
