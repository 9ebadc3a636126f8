import ReleasePacker.Proofs.Release.Course
import ReleasePacker.Proofs.Release.Delivery
import ReleasePacker.Proofs.Tool.Installation
import ReleasePacker.Shell.Programs

/-!
# Failures and the stages they come from

A failure is attributed to a stage by what it is. That this is the stage in which the run has
stopped has to be seen to by everything that can fail: what the system says when a program cannot
be run is the same in all stages, so each of them has to turn it into a failure of its own.
-/

namespace ReleasePacker

/-- A failure that is attributed to a stage and does not just say that some program ran for too
long. -/
def Stage.Owns (stage : Stage) (error : ReleaseError) : Prop :=
  error.stage = stage ∧ ∀ program seconds, error ≠ .timeout program seconds

/-- That a program ran for too long is attributed to the build, so this only has to be looked at
there. -/
theorem Stage.owns_of_ne_build {stage : Stage} {error : ReleaseError} (same : error.stage = stage)
    (other : stage ≠ .build) : stage.Owns error := by
  refine ⟨same, ?_⟩
  rintro program seconds rfl
  exact other same.symm

/-- What the system says when a program cannot be run, or when it runs for too long. -/
def ReleaseError.IsSystem : ReleaseError → Prop
  | io _ | timeout _ _ => True
  | _ => False

/-- An executor that says no more than the system when it fails. -/
structure Executor.OnlySystemFailures {σ : Type} (executor : Executor σ) : Prop where
  run : ∀ command outside files error,
    (executor.run command outside files).result = .error error → error.IsSystem
  runAttached : ∀ command outside files error,
    (executor.runAttached command outside files).result = .error error → error.IsSystem

/-- The executor of the system itself. -/
theorem Executor.onlySystemFailures_system (settings : SystemSettings) :
    (Executor.system settings).OnlySystemFailures := by
  have failing {α : Type} (command : Command) (files : FileSystem)
      (taken : WaitStatus → Shell.Machine → α) (shown : Shell.Machine → Bytes)
      (error : ReleaseError)
      (failed : (settings.answer command files taken shown).result = .error error) :
      error.IsSystem := by
    rw [SystemSettings.answer] at failed
    split at failed
    · cases failed
      trivial
    · dsimp only at failed
      split at failed
      · split at failed
        · cases failed
          trivial
        · cases failed
      · cases failed
  exact ⟨fun command _ files => failing command files _ _,
    fun command _ files => failing command files _ _⟩

/-! ## Tasks that fail in a stage -/

namespace Task

variable {σ α β : Type} {stage : Stage} {executor : Executor σ}

/-- All failures of a task come from a stage. -/
def FailsIn (task : Task σ α) (stage : Stage) : Prop :=
  ∀ world error, (task.perform world).1 = .error error → stage.Owns error

theorem FailsIn.pure (a : α) : (pure a : Task σ α).FailsIn stage := nofun

theorem FailsIn.ofExcept {result : Except ReleaseError α}
    (owned : ∀ error, result = .error error → stage.Owns error) :
    (liftExcept result : Task σ α).FailsIn stage := by
  intro world error failed
  rw [perform_liftExcept] at failed
  exact owned error failed

theorem FailsIn.bind {task : Task σ α} {next : α → Task σ β} (first : task.FailsIn stage)
    (second : ∀ a, (next a).FailsIn stage) : (task >>= next).FailsIn stage := by
  intro world error failed
  rcases ending : task.perform world with ⟨failure | a, middle⟩
  · rw [perform_bind_of_error ending] at failed
    cases failed
    exact first world error (by rw [ending])
  · rw [perform_bind_of_ok ending] at failed
    exact second a middle error failed

theorem FailsIn.andAlways {task : Task σ α} {cleanup : Task σ Unit} (first : task.FailsIn stage) :
    (Task.andAlways task cleanup).FailsIn stage :=
  fun world error failed => first world error failed

/-- A task that always answers fails only through what its answer is taken to mean. -/
theorem FailsIn.of_meaning {task : Task σ α} {meaning : α → Except ReleaseError β}
    (answers : ∀ world, ∃ a after, task.perform world = (.ok a, after) ∧
      ∀ error, meaning a = .error error → stage.Owns error) :
    (do liftExcept (meaning (← task)) : Task σ β).FailsIn stage := by
  intro world error failed
  obtain ⟨a, after, answered, owned⟩ := answers world
  rw [perform_bind_of_ok answered, perform_liftExcept] at failed
  exact owned error failed

end Task

/-! ## What each stage fails with -/

theorem owns_of_resolveTarget {explicit : Option String} {host : HostSystem} {error : ReleaseError}
    (failed : resolveTarget explicit host = .error error) : Stage.target.Owns error := by
  have parsing (text : String) (failed : parseTarget text = .error error) :
      Stage.target.Owns error := by
    rw [parseTarget] at failed
    split at failed
    · cases failed
    · cases failed
      exact Stage.owns_of_ne_build rfl (by decide)
  cases explicit with
  | some text => exact parsing text failed
  | none =>
    rw [resolveTarget] at failed
    split at failed
    · exact parsing _ failed
    · cases failed
      exact Stage.owns_of_ne_build rfl (by decide)

/-- Whatever keeps the version control system from answering is a failure to find a version. -/
theorem owns_of_describedVersion {answer : Except ReleaseError Output} {error : ReleaseError}
    (failed : describedVersion answer = .error error) : Stage.version.Owns error := by
  cases answer with
  | error failure =>
    cases failed
    exact Stage.owns_of_ne_build rfl (by decide)
  | ok output =>
    rw [describedVersion] at failed
    split at failed
    · unfold parseDescription at failed
      split at failed
      · cases failed
      · cases failed
        exact Stage.owns_of_ne_build rfl (by decide)
    · cases failed
      exact Stage.owns_of_ne_build rfl (by decide)

theorem owns_of_planFor {config : ReleaseConfig} {target : TargetTriple} {version : VersionLabel}
    {error : ReleaseError} (failed : planFor config target version = .error error) :
    Stage.configuration.Owns error := by
  rw [planFor, ArtifactSet.ofManifest, ArtifactSet.ofList] at failed
  split at failed
  · cases failed
  · cases failed
    exact Stage.owns_of_ne_build rfl (by decide)

/-- The stage of a phase. -/
def Phase.stage : Phase → Stage
  | build => .build
  | test => .test

theorem Phase.owns_failure (phase : Phase) (target : TargetTriple) (code : Option Int)
    (reason : String) : phase.stage.Owns (phase.failure target code reason) := by
  cases phase with
  | build =>
    refine ⟨rfl, ?_⟩
    rintro program seconds ⟨⟩
  | test => exact Stage.owns_of_ne_build rfl (by decide)

theorem owns_of_lockFileOutcome {target : TargetTriple} {answer : Except ReleaseError Output}
    {error : ReleaseError} (system : ∀ failure, answer = .error failure → failure.IsSystem)
    (failed : lockFileOutcome target answer = .error error) : Stage.build.Owns error := by
  cases answer with
  | error failure =>
    cases failure with
    | io source =>
      cases failed
      exact Phase.build.owns_failure ..
    | timeout program seconds =>
      cases failed
      exact Phase.build.owns_failure ..
    | _ => exact (system _ rfl).elim
  | ok output =>
    rw [lockFileOutcome] at failed
    split at failed
    · cases failed
    · cases failed
      exact Phase.build.owns_failure ..

theorem owns_of_phaseOutcome {phase : Phase} {target : TargetTriple} {command : Command}
    {answer : Except ReleaseError WaitStatus} {error : ReleaseError}
    (system : ∀ failure, answer = .error failure → failure.IsSystem)
    (failed : phaseOutcome phase target command answer = .error error) :
    phase.stage.Owns error := by
  -- Only what the system says is turned into a failure of the phase; all else is passed on.
  cases answer with
  | error failure =>
    cases failure with
    | io source =>
      cases failed
      exact phase.owns_failure ..
    | timeout program seconds =>
      cases failed
      exact phase.owns_failure ..
    | _ => exact (system _ rfl).elim
  | ok status =>
    rw [phaseOutcome] at failed
    split at failed
    · cases failed
    · cases failed
      exact phase.owns_failure ..

section

variable {σ : Type} {executor : Executor σ}

theorem failsIn_resolve (source : VersionSource) : (source.resolve executor).FailsIn .version := by
  cases source with
  | given label => exact .pure label
  | describe => exact .of_meaning fun world => ⟨_, _, rfl, fun _ => owns_of_describedVersion⟩

theorem failsIn_ensureLockFile (system : executor.OnlySystemFailures) (projectRoot : Path)
    (target : TargetTriple) : (ensureLockFile executor projectRoot target).FailsIn .build := by
  refine Task.FailsIn.bind (fun world error failed => nomatch failed) fun present => ?_
  cases present with
  | true => exact .pure ()
  | false =>
    exact .of_meaning fun world => ⟨_, _, rfl, fun _ =>
      owns_of_lockFileOutcome (system.run lockFileCommand world.outside world.files)⟩

theorem failsIn_runPhase (system : executor.OnlySystemFailures) (settings : BuildSettings)
    (target : TargetTriple) (phase : Phase) :
    (runPhase executor settings target phase).FailsIn phase.stage :=
  .of_meaning fun world => ⟨_, _, rfl, fun _ =>
    owns_of_phaseOutcome (system.runAttached _ world.outside world.files)⟩

/-- An installer fails to make the tool available, whatever the reason. -/
theorem failsIn_askForTool (installer : Installer σ) :
    (Task.askForTool installer.provider).FailsIn .bootstrap := by
  intro world error failed
  rw [Task.perform_askForTool] at failed
  obtain ⟨reason, rfl⟩ := (installer.ending _).failure failed
  exact Stage.owns_of_ne_build rfl (by decide)

theorem StagingFolder.failsIn_stageEach (artifacts : List Artifact) (folder : StagingFolder) :
    (folder.stageEach artifacts : Task σ StagingFolder).FailsIn .staging := by
  induction artifacts generalizing folder with
  | nil => exact .pure folder
  | cons artifact rest ih =>
    intro world error failed
    rw [perform_stageEach_cons, perform_stage] at failed
    split at failed
    next folder' middle _ => exact ih folder' middle error failed
    next failure middle ending =>
      cases failed
      split at ending
      · split at ending
        · cases ending
        · cases ending
          exact Stage.owns_of_ne_build rfl (by decide)
      · cases ending
        exact Stage.owns_of_ne_build rfl (by decide)

theorem failsIn_stageAll (platform : Platform) (set : ArtifactSet) (parent : Option Path) :
    (stageAll platform set parent : Task σ StagingFolder).FailsIn .staging := by
  refine Task.FailsIn.bind (fun world error failed => ?_) fun folder =>
    folder.failsIn_stageEach set.entries
  rw [StagingFolder.perform_create] at failed
  split at failed
  · cases failed
  · cases failed
    exact Stage.owns_of_ne_build rfl (by decide)

theorem failsIn_packArchive (platform : Platform) (folder : StagingFolder) (name : ArchiveName)
    (outputDir : Path) :
    (packArchive platform folder name outputDir : Task σ ReleaseArchive).FailsIn .packaging := by
  intro world error failed
  rw [perform_packArchive] at failed
  split at failed
  · cases failed
  · cases failed
    exact Stage.owns_of_ne_build rfl (by decide)

end

/-! ## The course of a run -/

/-- A row of tasks that fail in their own stages stops in a stage with a failure of that stage. -/
theorem Course.Stops.owns {σ α β : Type} {course : Course σ α β} {a : α} {world after : World σ}
    {stage : Stage} {error : ReleaseError} (stops : course.Stops a world stage error after)
    (each : course.Each fun stage task => task.FailsIn stage) : stage.Owns error := by
  induction stops with
  | here failed => exact each.1 _ _ _ (by rw [failed])
  | later _ _ ih => exact ih each.2

namespace ReleaseRun

variable {σ : Type} (run : ReleaseRun σ)

theorem failsIn_progress (line : String) (stage : Stage) : (run.progress line).FailsIn stage := by
  intro world error failed
  rw [perform_progress] at failed
  cases failed

/-- Each stage of a run fails only with failures of its own. -/
theorem course_failsIn {installer : Installer σ} (provided : run.provider = installer.provider)
    (system : run.executor.OnlySystemFailures) :
    run.course.Each fun stage task => task.FailsIn stage := by
  refine ⟨fun _ => .ofExcept fun _ => owns_of_resolveTarget,
    fun target => (failsIn_resolve _).bind fun version => .pure _,
    fun _ => .ofExcept fun _ => owns_of_planFor,
    fun plan => ?bootstrap, fun _ => ?build, fun _ => ?test, fun plan => ?staging,
    fun _ => ?packaging, trivial⟩
  case bootstrap =>
    rw [provided]
    exact (run.failsIn_progress _ _).bind fun _ =>
      (failsIn_askForTool installer).bind fun program => .pure _
  case build =>
    exact (run.failsIn_progress _ _).bind fun _ => (failsIn_ensureLockFile system _ _).bind
      fun _ => (failsIn_runPhase system _ _ .build).bind fun _ => .pure _
  case test =>
    cases tests : run.config.skipTests with
    | true => exact .pure _
    | false => exact (failsIn_runPhase system _ _ .test).bind fun _ => .pure _
  case staging =>
    exact (run.failsIn_progress _ _).bind fun _ =>
      (failsIn_stageAll _ _ _).bind fun folder => .pure _
  case packaging =>
    refine Task.FailsIn.bind (.andAlways ?_) fun archive =>
      (run.failsIn_progress _ _).bind fun _ => .pure _
    exact (run.failsIn_progress _ _).bind fun _ => failsIn_packArchive _ _ _ _

/-- With an installer as provider and an executor that says no more than the system, as that of the
system itself does: a run stops in a stage with a failure exactly if it fails with it, and then the
failure is attributed to that stage. It never just says that a program ran for too long, and what
the system says about files comes from staging only. -/
theorem stops_iff_execute (run : ReleaseRun σ) (installer : Installer σ)
    (provided : run.provider = installer.provider) (system : run.executor.OnlySystemFailures)
    (world : World σ) :
    (∀ settings, (Executor.system settings).OnlySystemFailures) ∧
    run.execute = run.course.task () ∧
    (∀ stage error after, run.course.Stops () world stage error after ↔
      run.execute.perform world = (.error error, after) ∧ error.stage = stage) ∧
    (∀ program seconds after,
      run.execute.perform world ≠ (.error (.timeout program seconds), after)) ∧
    ∀ source after, run.execute.perform world = (.error (.io source), after) →
      run.course.Stops () world .staging (.io source) after := by
  have each := run.course_failsIn provided system
  have stopped (error : ReleaseError) (after : World σ) :
      run.execute.perform world = (.error error, after) ↔
        ∃ stage, run.course.Stops () world stage error after := by
    rw [execute_eq_course, Course.perform_eq_error]
  refine ⟨Executor.onlySystemFailures_system, run.execute_eq_course, fun stage error after => ?_,
    fun program seconds after failed => ?_, fun source after failed => ?_⟩
  · refine ⟨fun stops => ⟨(stopped error after).mpr ⟨stage, stops⟩, (stops.owns each).1⟩, ?_⟩
    rintro ⟨failed, rfl⟩
    obtain ⟨stage, stops⟩ := (stopped error after).mp failed
    rwa [(stops.owns each).1]
  · obtain ⟨stage, stops⟩ := (stopped _ after).mp failed
    exact (stops.owns each).2 program seconds rfl
  · obtain ⟨stage, stops⟩ := (stopped _ after).mp failed
    obtain rfl : Stage.staging = stage := (stops.owns each).1
    exact stops

/-- Programs that succeed, but for the tests, which are answered as given. -/
def testExecutor (answer : Except ReleaseError WaitStatus) : Executor Unit where
  run _ outside files := ⟨.ok ⟨.exited 0, [], []⟩, [], outside, files⟩
  runAttached command outside files :=
    ⟨if command.arguments.head? = some Phase.test.word then answer else .ok (.exited 0), [],
      outside, files⟩

/-- An installer that finds the tool. -/
def testInstaller (answer : Except ReleaseError WaitStatus) : Installer Unit where
  executor := testExecutor answer
  downloader := { download := fun url _ outside files => (.error (.notFound url), outside, files) }
  settings := {}
  platform := (obliged ⟨"/out"⟩).platform

/-- A run in which all goes well until the tests. -/
def testing (answer : Except ReleaseError WaitStatus) : ReleaseRun Unit :=
  { obliged ⟨"/out"⟩ with
    config := { (obliged ⟨"/out"⟩).config with skipTests := false }
    executor := testExecutor answer
    provider := (testInstaller answer).provider }

theorem onlySystemFailures_testExecutor {answer : Except ReleaseError WaitStatus}
    (system : ∀ error, answer = .error error → error.IsSystem) :
    (testExecutor answer).OnlySystemFailures where
  run := nofun
  runAttached command _ _ error failed := by
    dsimp only [testExecutor] at failed
    split at failed
    · exact system error failed
    · cases failed

/-- Tests that hang are a failure of testing. -/
theorem stops_iff_execute_testing :
    let run := testing (.error (.timeout "cross" 60))
    let error := .testFailed ⟨"a-b-c", by decide⟩ none "cross timed out after 60 seconds"
    run.provider = (testInstaller (.error (.timeout "cross" 60))).provider ∧
      run.executor.OnlySystemFailures ∧
      (run.execute.perform (builtProject [])).1 = .error error ∧
      run.course.Stops () (builtProject []) .test error
        (run.execute.perform (builtProject [])).2 := by
  intro run error
  have system : run.executor.OnlySystemFailures := by
    refine onlySystemFailures_testExecutor fun failure same => ?_
    cases same
    trivial
  have failed : (run.execute.perform (builtProject [])).1 = .error error := by decide +kernel
  obtain ⟨-, -, stops, -, -⟩ := stops_iff_execute run (testInstaller _) rfl system (builtProject [])
  exact ⟨rfl, system, failed, (stops .test error _).mpr ⟨Prod.ext failed rfl, rfl⟩⟩

end ReleaseRun
end ReleasePacker
