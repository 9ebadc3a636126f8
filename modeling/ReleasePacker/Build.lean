import ReleasePacker.World
import ReleasePacker.Target.Host

/-!
# Building and testing

The tool builds for the target and then runs the tests there. Before that the project gets a
lock file if it has none.
-/

namespace ReleasePacker

/-- Where the tool leaves the binary for a target. -/
def binaryPath (buildDir : Path) (target : TargetTriple) (name : String) : Path :=
  buildDir / target.text / "release" / (name ++ target.executableSuffix)

/-- How to build. -/
structure BuildSettings where
  /-- The tool. -/
  program : String
  projectRoot : Path
  buildDir : Path
  binaryName : String
  verbosity : Nat
  skipTests : Bool

/-- The parts of the stage in which the tool works. -/
inductive Phase where
  | build
  | test
  deriving DecidableEq, Repr

/-- The word that tells the tool what to do. -/
def Phase.word : Phase → String
  | build => "build"
  | test => "test"

/-- The failure of a phase. -/
def Phase.failure (phase : Phase) (target : TargetTriple) (code : Option Int) (reason : String) :
    ReleaseError :=
  match phase with
  | build => .buildFailed target code reason
  | test => .testFailed target code reason

/-- The command of a phase. -/
def phaseCommand (program : String) (target : TargetTriple) (verbosity : Nat) (phase : Phase) :
    Command :=
  ⟨program,
   [phase.word, "--target", target.text, "--release"] ++ List.replicate verbosity "-v"⟩

/-- The exit code in a wait status, as failures carry it. -/
def WaitStatus.code (status : WaitStatus) : Option Int := status.exitCode?.map Int.ofNat

/-- What the answer to the command of a phase means. -/
def phaseOutcome (phase : Phase) (target : TargetTriple) (command : Command)
    (answer : Except ReleaseError WaitStatus) : Except ReleaseError Unit :=
  match answer with
  | .error (.io error) =>
    .error (phase.failure target none
      ("failed to run " ++ command.program ++ ": " ++ error.message))
  | .error (.timeout program seconds) =>
    .error (phase.failure target none (ReleaseError.timeout program seconds).message)
  | .error other => .error other
  | .ok status =>
    if status.isSuccess then .ok ()
    else .error (phase.failure target status.code ("`" ++ command.text ++ "` did not succeed"))

/-- Runs a phase. -/
def runPhase {σ : Type} (executor : Executor σ) (settings : BuildSettings)
    (target : TargetTriple) (phase : Phase) : Task σ Unit := do
  let command := phaseCommand settings.program target settings.verbosity phase
  liftExcept (phaseOutcome phase target command (← Task.runAttached executor command))

/-- The command that makes a lock file. -/
def lockFileCommand : Command := ⟨"cargo", ["generate-lockfile"]⟩

/-- What the answer to the command for a lock file means. -/
def lockFileOutcome (target : TargetTriple) (answer : Except ReleaseError Output) :
    Except ReleaseError Unit :=
  match answer with
  | .error (.io error) => .error (couldNotRun (.io error))
  | .error (.timeout program seconds) => .error (couldNotRun (.timeout program seconds))
  | .error other => .error other
  | .ok output =>
    if output.status.isSuccess then .ok ()
    else
      .error (.buildFailed target output.status.code
        ("cargo generate-lockfile failed: " ++ output.stderrText))
where
  couldNotRun (error : ReleaseError) : ReleaseError :=
    .buildFailed target none ("failed to run cargo generate-lockfile: " ++ error.message)

/-- Makes a lock file unless the project has one. -/
def ensureLockFile {σ : Type} (executor : Executor σ) (projectRoot : Path)
    (target : TargetTriple) : Task σ Unit := do
  if ← Task.inspect fun files => files.isFile (projectRoot / "Cargo.lock") then return ()
  liftExcept (lockFileOutcome target (← Task.runCommand executor lockFileCommand))

/-- Builds for a target and runs the tests unless they are skipped; the answer is where the
binary is found. -/
def buildAndTest {σ : Type} (executor : Executor σ) (settings : BuildSettings)
    (target : TargetTriple) : Task σ Path := do
  ensureLockFile executor settings.projectRoot target
  runPhase executor settings target .build
  if !settings.skipTests then runPhase executor settings target .test
  return binaryPath settings.buildDir target settings.binaryName

end ReleasePacker
