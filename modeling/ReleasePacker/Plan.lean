import ReleasePacker.Archive.Name
import ReleasePacker.Artifact
import ReleasePacker.Build
import ReleasePacker.Config.ReleaseConfig

/-!
# Release plans

Before anything is built it is settled what the archive will be called and what goes into it.
-/

namespace ReleasePacker

/-- What a run is going to do. -/
structure ReleasePlan where
  archive : ArchiveName
  archivePath : Path
  binaryPath : Path
  artifacts : ArtifactSet
  tool : String
  skipTests : Bool
  deriving DecidableEq

/-- The plan of a configuration for a target and a version. -/
def planFor (config : ReleaseConfig) (target : TargetTriple) (version : VersionLabel) :
    Except ReleaseError ReleasePlan := do
  let binary := binaryPath config.buildDir target config.binaryName
  let artifacts ← ArtifactSet.ofManifest config.manifest config.projectRoot binary
  let archive : ArchiveName := ⟨config.name, version, target⟩
  return {
    archive
    archivePath := config.outputDir / archive.fileName
    binaryPath := binary
    artifacts
    tool := config.tool.program
    skipTests := config.skipTests }

/-- The plan of a configuration. -/
def makePlan {σ : Type} (config : ReleaseConfig) (host : HostSystem) (executor : Executor σ) :
    Task σ ReleasePlan := do
  let target ← liftExcept (resolveTarget config.target host)
  let version ← config.version.resolve executor
  liftExcept (planFor config target version)

/-- The plan as it is shown when nothing is to be done. -/
def ReleasePlan.text (plan : ReleasePlan) : String :=
  Text.joinWith "\n"
    (["Dry run - nothing will be built or written",
      "",
      "Name: " ++ plan.archive.name,
      "Target: " ++ plan.archive.target.text,
      "Version: " ++ plan.archive.version.text,
      "Tool: " ++ plan.tool,
      "Tests: " ++ (if plan.skipTests then "skipped" else "run"),
      "Archive: " ++ plan.archivePath.text,
      "",
      "Files to package:"] ++
    plan.artifacts.entries.map fun artifact =>
      "  - " ++ artifact.fileName ++ " (" ++ artifact.kind.name ++ ", from " ++
        artifact.source.text ++ ")")

end ReleasePacker
