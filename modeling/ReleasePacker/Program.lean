import ReleasePacker.CommandLine.Help
import ReleasePacker.CommandLine.Reading
import ReleasePacker.Config.Resolve
import ReleasePacker.Release

/-!
# The packager as a program

From the words of a command line to what stands on the two output streams and the exit status.
The report of a successful run is the only thing that is ever written to standard output; all
else goes to the error stream.
-/

namespace ReleasePacker

/-- What the packager runs with. -/
structure Program (σ : Type) where
  platform : Platform
  context : ProcessContext
  /-- The executor for programs that run in a folder, for so many seconds at most. -/
  executor : (folder : Path) → (timeout : Option Nat) → Executor σ
  downloader : Downloader σ
  /-- How writing to standard output fails, if it does. -/
  stdoutFault : Option IoError

/-- What a run leaves behind. -/
structure Outcome (σ : Type) where
  /-- What stands on standard output. -/
  stdout : String
  /-- The exit status. -/
  exitCode : Int
  world : World σ

namespace Program

variable {σ : Type}

/-- The configuration of a run. -/
def configure (program : Program σ) (options : Options) : Task σ ReleaseConfig := do
  liftExcept (← Task.inspect fun files => options.resolve program.context files)

/-- The run of a release. -/
def releaseRun (program : Program σ) (options : Options) (config : ReleaseConfig) :
    ReleaseRun σ :=
  let executor := program.executor config.projectRoot config.timeout
  { config
    host := .ofPlatform program.platform.operatingSystem
    executor
    provider := Installer.provider
      { executor, downloader := program.downloader, settings := config.tool,
        platform := program.platform }
    platform := program.platform
    quiet := options.quiet }

/-- Runs a release; the answer is what is written to standard output. -/
def release (program : Program σ) (options : Options) : Task σ String := do
  let config ← program.configure options
  let run := program.releaseRun options config
  if options.dryRun then
    let plan ← makePlan config run.host run.executor
    Task.writeLine program.platform plan.text
    return ""
  let report ← run.execute
  if !options.json then return ""
  match program.stdoutFault with
  | some fault => throw (.reportWrite fault)
  | none => return report.json ++ "\n"

/-- Brings a run to its end: what it answers goes to standard output, and a failure is the last
line of the error stream. -/
def conclude (program : Program σ) (work : Task σ String) (world : World σ) : Outcome σ :=
  match work.perform world with
  | (.ok stdout, world) => { stdout, exitCode := 0, world }
  | (.error error, world) =>
    let (_, world) := (Task.writeLine program.platform error.report).perform world
    { stdout := "", exitCode := error.exitCode, world }

/-- A run with options that have been read. -/
def runOptions (program : Program σ) (options : Options) (world : World σ) : Outcome σ :=
  program.conclude (program.release options) world

/-- What a process does with options: it learns about its surroundings, and releases. -/
def work (program : Program σ) (surroundings : Except ReleaseError ProcessContext)
    (options : Options) : Task σ String := do
  let context ← liftExcept surroundings
  { program with context }.release options

/-- What is said about a command line that is refused. -/
def usageText : UsageProblem → String
  | .unknownArgument => "error: unexpected argument found"
  | .missingValue => "error: a value is required but none was supplied"
  | .wrongValue => "error: invalid value"
  | .conflict => "error: an argument cannot be used with another one, or twice"
  | .needlessValue => "error: unexpected value found"

/-- The run of a process from its command line, in the surroundings that it finds itself in. -/
def start (program : Program σ) (surroundings : Except ReleaseError ProcessContext)
    (words : List String) (world : World σ) : Outcome σ :=
  match readCommandLine words with
  | .ok options => program.conclude (program.work surroundings options) world
  | .error (.help long) => { stdout := helpText long, exitCode := 0, world }
  | .error .version => { stdout := versionText, exitCode := 0, world }
  | .error (.problem problem) =>
    let (_, world) := (Task.writeLine program.platform (usageText problem)).perform world
    { stdout := "", exitCode := 2, world }

/-- A run from the command line. -/
def run (program : Program σ) (words : List String) (world : World σ) : Outcome σ :=
  program.start (.ok program.context) words world

end Program

/-- What an event left on the error stream. -/
def Event.shown : Event → Bytes
  | .wroteLine line true => Utf8.encode (line ++ "\n")
  | .ranAttached _ _ shown => shown
  | _ => []

/-- What stands on the error stream. -/
def World.errorStream {σ : Type} (world : World σ) : Bytes := world.events.flatMap Event.shown

/-- The exit status that the system keeps: the low eight bits. -/
def Outcome.processCode {σ : Type} (outcome : Outcome σ) : Nat := (outcome.exitCode % 256).toNat

end ReleasePacker
