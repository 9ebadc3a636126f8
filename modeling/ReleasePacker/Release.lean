import ReleasePacker.Report
import ReleasePacker.Tool.Installer

/-!
# Releases

A release goes through its stages one after another: the plan is made, the tool is made
available, the project is built and tested, the files are staged and packed. The first failure
ends it.
-/

namespace ReleasePacker

/-- What a run works with. -/
structure ReleaseRun (σ : Type) where
  config : ReleaseConfig
  host : HostSystem
  executor : Executor σ
  provider : ToolProvider σ
  platform : Platform
  /-- Whether nothing is said about progress. -/
  quiet : Bool

namespace ReleaseRun

variable {σ : Type}

/-- Says something about progress, unless the run is quiet. -/
def progress (run : ReleaseRun σ) (line : String) : Task σ Unit :=
  if run.quiet then return () else Task.writeLine run.platform line

/-- How the tool builds in a run. -/
def buildSettings (run : ReleaseRun σ) (program : String) : BuildSettings where
  program := program
  projectRoot := run.config.projectRoot
  buildDir := run.config.buildDir
  binaryName := run.config.binaryName
  verbosity := run.config.verbosity
  skipTests := run.config.skipTests

/-- Stages and packs the files of a plan. -/
def pack (run : ReleaseRun σ) (plan : ReleasePlan) : Task σ ReleaseArchive := do
  run.progress ("Staging " ++ toString plan.artifacts.entries.length ++ " files...")
  let folder ← stageAll run.platform plan.artifacts run.config.stagingParent
  Task.andAlways
    (do
      run.progress ("Packaging " ++ plan.archive.fileName ++ "...")
      packArchive run.platform folder plan.archive run.config.outputDir)
    folder.discard

/-- The run. -/
def execute (run : ReleaseRun σ) : Task σ ReleaseReport := do
  let plan ← makePlan run.config run.host run.executor
  run.progress ("Releasing " ++ plan.archive.name ++ " " ++ plan.archive.version.text ++ " for " ++
    plan.archive.target.text)
  let program ← Task.askForTool run.provider
  run.progress ("Building with " ++ program ++ "...")
  let _ ← buildAndTest run.executor (run.buildSettings program) plan.archive.target
  let archive ← run.pack plan
  let report := ReleaseReport.ofArchive plan archive
  run.progress report.summary
  return report

end ReleaseRun
end ReleasePacker
