import ReleasePacker.Proofs.Plan
import ReleasePacker.Proofs.Release.Stages

/-!
# The order of the external steps

A run leaves at most five steps to others: describing the revision, providing the tool, making
a lock file, building and testing. Which of them there are is settled by the configuration and by
whether a lock file is there once the tool is. They are taken in that order, each only after a
success, and files are staged only after the last one.
-/

namespace ReleasePacker

namespace Task

variable {σ β : Type}

theorem steps_afterCommand (executor : Executor σ) (command : Command) (world : World σ) :
    (afterCommand executor command world).steps =
      world.steps ++
        [(.run command, succeeded (executor.run command world.outside world.files).result)] := by
  simp [World.steps, afterCommand, Event.external?]

theorem steps_afterAttached (executor : Executor σ) (command : Command) (world : World σ) :
    (afterAttached executor command world).steps =
      world.steps ++ (Event.ranAttached command
        (executor.runAttached command world.outside world.files).result []).external?.toList := by
  simp [World.steps, afterAttached, Event.external?]

theorem steps_afterAsking (provider : ToolProvider σ) (world : World σ) :
    (afterAsking provider world).steps =
      world.steps ++
        [(.askForTool, (provider.ensureInstalled world.outside world.files).1.isOk)] := by
  simp [World.steps, afterAsking, Event.external?]

/-- A command whose answer means a success exactly if the command succeeded. -/
theorem attempts_runCommand (executor : Executor σ) (command : Command)
    {meaning : Except ReleaseError Output → Except ReleaseError β}
    (agrees : ∀ answer, (meaning answer).isOk = succeeded answer) (world : World σ) :
    (do liftExcept (meaning (← runCommand executor command)) : Task σ β).Attempts world
      [.run command] := by
  rw [Attempts, perform_bind, perform_runCommand]
  dsimp only
  rw [perform_liftExcept, agrees]
  exact ⟨_, steps_afterCommand executor command world, Attempt.single _ _⟩

end Task

namespace ReleaseRun

variable {σ : Type} (run : ReleaseRun σ)

/-- The steps that planning a run needs. -/
def planningSteps : List ExternalStep :=
  match run.config.version with
  | .describe => [.run ⟨"git", ["describe", "--tags"]⟩]
  | .given _ => []

/-- The step that builds or tests with a program, as the word says. -/
def phaseStep (target : TargetTriple) (program word : String) : ExternalStep :=
  .runAttached ⟨program,
    [word, "--target", target.text, "--release"] ++ List.replicate run.config.verbosity "-v"⟩

/-- The steps of building and testing with a program. -/
def buildSteps (target : TargetTriple) (program : String) (lacksLockFile : Bool) :
    List ExternalStep :=
  (if lacksLockFile then [.run ⟨"cargo", ["generate-lockfile"]⟩] else []) ++
    ([run.phaseStep target program "build"] ++
      (if run.config.skipTests then [] else [run.phaseStep target program "test"]))

/-- The steps of a run that is not stopped. -/
def sequence (target : TargetTriple) (program : String) (lacksLockFile : Bool) :
    List ExternalStep :=
  run.planningSteps ++ ([.askForTool] ++ run.buildSteps target program lacksLockFile)

/-- What comes back when a run that starts in a world asks for the tool. -/
def toolAnswer (world : World σ) : Except ReleaseError String × σ × FileSystem :=
  let planned := ((makePlan run.config run.host run.executor).perform world).2
  run.provider.ensureInstalled planned.outside planned.files

/-- There is no lock file when the build starts. -/
def lacksLockFile (world : World σ) : Bool :=
  !(run.toolAnswer world).2.2.isFile (run.config.projectRoot / "Cargo.lock")

variable {run}

/-! ## The steps of the parts -/

theorem attempts_progress (line : String) (world : World σ) :
    (run.progress line).Attempts world [] := by
  rw [Task.Attempts, perform_progress]
  exact ⟨[], by rw [steps_afterProgress, List.append_nil], .nil⟩

theorem attempts_askForTool (world : World σ) :
    (Task.askForTool run.provider).Attempts world [.askForTool] := by
  rw [Task.Attempts, Task.perform_askForTool]
  exact ⟨_, Task.steps_afterAsking run.provider world, Attempt.single _ _⟩

theorem isOk_lockFileOutcome (target : TargetTriple) (answer : Except ReleaseError Output) :
    (lockFileOutcome target answer).isOk = Task.succeeded answer := by
  rcases answer with error | output
  · cases error <;> rfl
  · rw [lockFileOutcome, Task.succeeded]
    cases output.status.isSuccess <;> rfl

theorem isOk_phaseOutcome (phase : Phase) (target : TargetTriple) (command : Command)
    (answer : Except ReleaseError WaitStatus) :
    (phaseOutcome phase target command answer).isOk =
      (answer.map WaitStatus.isSuccess).toOption.getD false := by
  rcases answer with error | status
  · cases error <;> rfl
  · rw [phaseOutcome]
    cases success : status.isSuccess <;> simp [Except.map, Except.toOption, Except.isOk,
      Except.toBool, success]

theorem attempts_ensureLockFile (projectRoot : Path) (target : TargetTriple) (world : World σ) :
    (ensureLockFile run.executor projectRoot target).Attempts world
      (if !world.files.isFile (projectRoot / "Cargo.lock") then [.run lockFileCommand]
        else []) := by
  rw [ensureLockFile, Task.Attempts, Task.perform_bind, Task.perform_inspect]
  dsimp only
  cases world.files.isFile (projectRoot / "Cargo.lock") with
  | true => exact ⟨[], (List.append_nil _).symm, .nil⟩
  | false =>
    exact Task.attempts_runCommand run.executor lockFileCommand (isOk_lockFileOutcome target) world

theorem attempts_runPhase (settings : BuildSettings) (target : TargetTriple) (phase : Phase)
    (world : World σ) :
    (runPhase run.executor settings target phase).Attempts world
      [.runAttached (phaseCommand settings.program target settings.verbosity phase)] := by
  rw [runPhase, Task.Attempts, Task.perform_bind, Task.perform_runAttached]
  dsimp only
  rw [Task.perform_liftExcept, isOk_phaseOutcome]
  exact ⟨_, Task.steps_afterAttached run.executor _ world, Attempt.single _ _⟩

theorem attempts_buildAndTest (program : String) (target : TargetTriple) (world : World σ) :
    (buildAndTest run.executor (run.buildSettings program) target).Attempts world
      (run.buildSteps target program
        (!world.files.isFile (run.config.projectRoot / "Cargo.lock"))) := by
  refine (attempts_ensureLockFile _ target world).bind fun _ _ _ => ?_
  refine (attempts_runPhase _ target .build _).bind fun _ middle _ => ?_
  rw [buildSettings]
  cases run.config.skipTests with
  | true => exact ⟨[], (List.append_nil _).symm, .nil⟩
  | false =>
    change (_ >>= _ : Task σ Path).Attempts middle ([run.phaseStep target program "test"] ++ [])
    refine (attempts_runPhase _ target .test middle).bind fun _ _ _ => ?_
    exact ⟨[], (List.append_nil _).symm, .nil⟩

/-! ## The steps of a run -/

theorem succeeded_of_describedVersion {answer : Except ReleaseError Output} {label : VersionLabel}
    (found : describedVersion answer = .ok label) : Task.succeeded answer = true := by
  rcases answer with error | output
  · simp only [describedVersion, reduceCtorEq] at found
  · rw [Task.succeeded]
    cases success : output.status.isSuccess with
    | true => rfl
    | false => simp only [describedVersion, success, Bool.false_eq_true, if_false,
        reduceCtorEq] at found

/-- Settling the version takes the planning steps, and a version comes of it only if they
succeed. -/
theorem steps_resolve (run : ReleaseRun σ) (world : World σ) : ∃ performed complete,
    ((run.config.version.resolve run.executor).perform world).2.steps =
      world.steps ++ performed ∧
    Attempt run.planningSteps performed complete ∧
    ∀ label, ((run.config.version.resolve run.executor).perform world).1 = .ok label →
      complete = true := by
  rw [planningSteps]
  cases run.config.version with
  | given label => exact ⟨[], true, (List.append_nil _).symm, .nil, fun _ _ => rfl⟩
  | describe =>
    rw [VersionSource.resolve, describeVersion, Task.perform_bind, Task.perform_runCommand]
    dsimp only
    rw [Task.perform_liftExcept]
    exact ⟨_, _, Task.steps_afterCommand run.executor describeCommand world, .single _ _,
      fun label found => succeeded_of_describedVersion found⟩

/-- Once a plan is made, the tool is asked for, and what is answered builds and tests. -/
theorem attempts_build {world middle : World σ} {plan : ReleasePlan} {program : String}
    (made : (makePlan run.config run.host run.executor).perform world = (.ok plan, middle))
    (answer : ∀ given, (run.toolAnswer world).1 = .ok given → given = program) :
    (run.build plan).Attempts middle
      ([.askForTool] ++
        run.buildSteps plan.archive.target program (run.lacksLockFile world)) := by
  have planned : ((makePlan run.config run.host run.executor).perform world).2 = middle := by
    rw [made]
  refine (attempts_progress _ middle).bind_of_nothing fun _ told telling => ?_
  rw [perform_progress, Prod.mk.injEq] at telling
  obtain ⟨-, rfl⟩ := telling
  refine (attempts_askForTool _).bind fun given asked asking => ?_
  rw [Task.perform_askForTool, Prod.mk.injEq, outside_afterProgress, files_afterProgress] at asking
  obtain ⟨provided, rfl⟩ := asking
  have same : given = program := answer given (by rw [toolAnswer, planned]; exact provided)
  subst same
  refine (attempts_progress _ _).bind_of_nothing fun _ told telling => ?_
  rw [perform_progress, Prod.mk.injEq] at telling
  obtain ⟨-, rfl⟩ := telling
  -- Lines of progress change no files, so the build finds those that providing the tool left.
  have lockFile : run.lacksLockFile world = !(run.afterProgress
      ("Building with " ++ given ++ "...") (Task.afterAsking run.provider (run.afterProgress
        ("Releasing " ++ plan.archive.name ++ " " ++ plan.archive.version.text ++ " for " ++
          plan.archive.target.text) middle))).files.isFile
      (run.config.projectRoot / "Cargo.lock") := by
    rw [lacksLockFile, toolAnswer, planned, files_afterProgress, Task.afterAsking,
      outside_afterProgress, files_afterProgress]
  rw [lockFile, ← List.append_nil (run.buildSteps _ _ _)]
  exact (attempts_buildAndTest given plan.archive.target _).bind fun _ _ _ =>
    ⟨[], (List.append_nil _).symm, .nil⟩

theorem askForTool_notMem_planningSteps : .askForTool ∉ run.planningSteps := by
  rw [planningSteps]
  cases run.config.version <;> simp

/-- A plan is made only after all planning steps have succeeded. -/
theorem steps_makePlan {target : TargetTriple}
    (resolved : resolveTarget run.config.target run.host = .ok target) (world : World σ) :
    ∃ performed complete, ((makePlan run.config run.host run.executor).perform world).2.steps =
      world.steps ++ performed ∧
    Attempt run.planningSteps performed complete ∧
    ∀ plan, ((makePlan run.config run.host run.executor).perform world).1 = .ok plan →
      complete = true := by
  obtain ⟨performed, complete, steps, attempt, succeeded⟩ := steps_resolve run world
  rw [perform_makePlan_of_resolved resolved]
  refine ⟨performed, complete, steps, attempt, fun plan made => ?_⟩
  rcases version : ((run.config.version.resolve run.executor).perform world).1 with error | label
  · rw [version] at made
    cases made
  · exact succeeded label version

/-- The steps up to staging, when there is a target. -/
theorem steps_prepare {target : TargetTriple} {program : String}
    (resolved : resolveTarget run.config.target run.host = .ok target) (world : World σ)
    (answer : ∀ given, (run.toolAnswer world).1 = .ok given → given = program) :
    ∃ performed, (run.prepare.perform world).2.steps = world.steps ++ performed ∧
      performed.map Prod.fst <+: run.sequence target program (run.lacksLockFile world) ∧
      (∀ step ∈ performed.dropLast, step.2 = true) ∧
      ((∀ plan, ((makePlan run.config run.host run.executor).perform world).1 ≠ .ok plan) →
        .askForTool ∉ performed.map Prod.fst) ∧
      (run.ReachesStaging world ↔ performed =
        (run.sequence target program (run.lacksLockFile world)).map fun step => (step, true)) := by
  obtain ⟨planned, complete, steps, attempt, succeeded⟩ := steps_makePlan resolved world
  have start : run.planningSteps <+: run.sequence target program (run.lacksLockFile world) :=
    List.prefix_append _ _
  rcases made : (makePlan run.config run.host run.executor).perform world
    with ⟨error | plan, middle⟩
  · have ending : run.prepare.perform world = (.error error, middle) :=
      Task.perform_bind_of_error made _
    rw [made] at steps
    refine ⟨planned, by rw [ending]; exact steps, attempt.isPrefix.trans start,
      attempt.succeeded_of_mem_dropLast, fun _ asked =>
        askForTool_notMem_planningSteps (attempt.isPrefix.subset asked), ?_⟩
    refine ⟨fun ⟨plan, finish, reached⟩ => ?_, fun whole => ?_⟩
    · rw [ending] at reached
      cases reached
    · have short := attempt.isPrefix.length_le
      rw [whole] at short
      simp only [sequence, List.map_map, List.length_map, List.length_append, List.length_cons,
        List.length_nil] at short
      omega
  · rw [made] at steps succeeded
    have onTarget : plan.archive.target = target := by
      have same := target_of_makePlan made
      rw [resolved] at same
      exact (Except.ok.inj same).symm
    -- With a plan all planning steps have succeeded, and the steps of the build come after them.
    obtain ⟨built, moreSteps, building⟩ := attempts_build made answer
    rw [succeeded plan rfl] at attempt
    have both := attempt.append building
    rw [onTarget] at both
    have performed : (run.prepare.perform world).2 = ((run.build plan).perform middle).2 ∧
        ((run.prepare.perform world).1.isOk = ((run.build plan).perform middle).1.isOk) := by
      rw [prepare, Task.perform_bind_of_ok made, Task.perform_bind]
      rcases (run.build plan).perform middle with ⟨_ | _, _⟩ <;> exact ⟨rfl, rfl⟩
    refine ⟨planned ++ built, ?_, both.isPrefix, both.succeeded_of_mem_dropLast,
      fun unplanned => absurd rfl (unplanned plan), ?_⟩
    · rw [performed.1, moreSteps, steps, List.append_assoc]
    · rw [sequence, ← both.complete_iff, ← performed.2]
      constructor
      · rintro ⟨_, _, reached⟩
        rw [reached]
        rfl
      · intro reached
        rcases ending : run.prepare.perform world with ⟨error | plan, finish⟩
        · rw [ending] at reached
          cases reached
        · exact ⟨plan, finish, ending⟩

/-- The external steps of a run are a beginning of its sequence in which only the last step can
have failed. None is taken without a target and the tool is not asked for without a plan. The run
gets as far as staging exactly if it has taken the whole sequence with success, and otherwise it
fails and has changed nothing itself. -/
theorem execute_steps (run : ReleaseRun σ) (world : World σ) :
    ∃ performed, (run.execute.perform world).2.steps = world.steps ++ performed ∧
      (∀ error, resolveTarget run.config.target run.host = .error error →
        performed = [] ∧ (run.execute.perform world).1 = .error error) ∧
      ∀ target program, resolveTarget run.config.target run.host = .ok target →
        (∀ given, (run.toolAnswer world).1 = .ok given → given = program) →
        let whole := run.sequence target program (run.lacksLockFile world)
        performed.map Prod.fst <+: whole ∧
        (∀ step ∈ performed.dropLast, step.2 = true) ∧
        ((∀ plan, ((makePlan run.config run.host run.executor).perform world).1 ≠ .ok plan) →
          .askForTool ∉ performed.map Prod.fst) ∧
        (run.ReachesStaging world ↔ performed = whole.map fun step => (step, true)) ∧
        (performed ≠ whole.map (fun step => (step, true)) →
          (∃ error, (run.execute.perform world).1 = .error error) ∧
          Relation.ReflTransGen run.External world (run.execute.perform world).2) := by
  have steps : (run.execute.perform world).2.steps = (run.prepare.perform world).2.steps := by
    rw [execute_eq, Task.perform_bind]
    rcases run.prepare.perform world with ⟨error | plan, middle⟩
    · rfl
    · exact (onlyTells_deliver plan).steps_eq middle
  have unreached : ¬ run.ReachesStaging world → ∃ error, run.execute.perform world =
      (.error error, (run.prepare.perform world).2) := by
    intro unreached
    rcases ending : run.prepare.perform world with ⟨error | plan, middle⟩
    · exact ⟨error, by rw [execute_eq, Task.perform_bind_of_error ending]⟩
    · exact absurd ⟨plan, middle, ending⟩ unreached
  rw [steps]
  cases resolved : resolveTarget run.config.target run.host with
  | error error =>
    have ending : run.prepare.perform world = (.error error, world) :=
      Task.perform_bind_of_error (perform_makePlan_of_unresolved resolved world) _
    refine ⟨[], by rw [ending, List.append_nil], fun other same => ⟨rfl, ?_⟩, nofun⟩
    cases same
    rw [execute_eq, Task.perform_bind_of_error ending]
  | ok target =>
    have answered : ∃ program, ∀ given, (run.toolAnswer world).1 = .ok given → given = program := by
      cases (run.toolAnswer world).1 with
      | error error => exact ⟨"", nofun⟩
      | ok program => exact ⟨program, fun given same => (Except.ok.inj same).symm⟩
    obtain ⟨program, answer⟩ := answered
    -- The steps that were taken do not depend on the program that is named for them.
    obtain ⟨performed, taken, -⟩ := steps_prepare resolved world answer
    refine ⟨performed, taken, nofun, fun other program same answer => ?_⟩
    cases same
    obtain ⟨others, takenToo, start, succeeded, unasked, reached⟩ :=
      steps_prepare resolved world answer
    have equal : others = performed :=
      List.append_cancel_left (takenToo.symm.trans taken)
    subst equal
    refine ⟨start, succeeded, unasked, reached, fun stopped => ?_⟩
    obtain ⟨error, ending⟩ := unreached fun staging => stopped (reached.mp staging)
    rw [ending]
    exact ⟨⟨error, rfl⟩, delegates_prepare world⟩

end ReleaseRun
end ReleasePacker
