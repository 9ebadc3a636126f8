import ReleasePacker.Program
import ReleasePacker.Proofs.Config
import ReleasePacker.Proofs.Release.Attribution

/-!
# Exit statuses

Whoever starts the packager sees how the run ended in its exit status. A program that refuses to
make the lock file, to build or to test has said why with an exit code of its own, and that is
handed on; any other failure is a one. What the programs have said can be read off the events of
the run, so the status is compared with those, and not with the failure it is computed from.
-/

namespace ReleasePacker

/-- The exit status for what a run comes to. -/
def exitStatus {α : Type} : Except ReleaseError α → Int
  | .ok _ => 0
  | .error error => error.exitCode

/-- A command that makes the lock file, builds or tests ended by itself with a code other than
zero. -/
inductive Event.FailsWith (code : Nat) : Event → Prop
  | lockFile {output : Output} (ended : output.status.exitCode? = some code)
    (nonzero : code ≠ 0) : FailsWith code (.ran lockFileCommand (.ok output))
  | phase {program : String} {target : TargetTriple} {verbosity : Nat} {phase : Phase}
    {status : WaitStatus} {shown : Bytes} (ended : status.exitCode? = some code)
    (nonzero : code ≠ 0) :
    FailsWith code (.ranAttached (phaseCommand program target verbosity phase) (.ok status) shown)

/-- A process that ended by itself has a code of eight bits. -/
theorem WaitStatus.lt_of_exitCode? {status : WaitStatus} {code : Nat}
    (ended : status.exitCode? = some code) : code < 256 := by
  rw [exitCode?] at ended
  split at ended
  · cases ended
    exact Nat.mod_lt _ (by decide)
  · cases ended

theorem WaitStatus.exitCode?_of_isSuccess {status : WaitStatus}
    (success : status.isSuccess = true) : status.exitCode? = some 0 := by
  rw [isSuccess, decide_eq_true_eq] at success
  rw [exitCode?, success]
  rfl

theorem Event.FailsWith.pos {event : Event} {code : Nat} (fails : event.FailsWith code) :
    0 < code := by
  cases fails <;> omega

theorem Event.FailsWith.lt {event : Event} {code : Nat} (fails : event.FailsWith code) :
    code < 256 := by
  cases fails with
  | lockFile ended | phase ended => exact WaitStatus.lt_of_exitCode? ended

/-- None of some events is a command that failed by itself. -/
def Clean (events : List Event) : Prop := ∀ event ∈ events, ∀ code, ¬ event.FailsWith code

theorem Clean.append {events more : List Event} (first : Clean events) (second : Clean more) :
    Clean (events ++ more) :=
  List.forall_mem_append.mpr ⟨first, second⟩

theorem clean_singleton {event : Event} : Clean [event] ↔ ∀ code, ¬ event.FailsWith code :=
  List.forall_mem_singleton

/-! ## Endings that agree with what was run -/

/-- How a task ended agrees with the events that it added. -/
inductive ExplainedBy {α : Type} (events : List Event) : Except ReleaseError α → Prop
  /-- No command failed by itself, and neither did the task. -/
  | success (a : α) (clean : Clean events) : ExplainedBy events (.ok a)
  /-- The last event is a command that failed by itself, the only one, and its code is handed on. -/
  | command {error : ReleaseError} {before : List Event} {event : Event} (code : Nat)
    (last : events = before ++ [event]) (clean : Clean before) (fails : event.FailsWith code)
    (passedOn : error.exitCode = code) : ExplainedBy events (.error error)
  /-- No command failed by itself, and the failure of the task is none with a code. -/
  | plain {error : ReleaseError} (clean : Clean events) (one : error.exitCode = 1) :
    ExplainedBy events (.error error)

theorem ExplainedBy.prepend {α : Type} {before events : List Event} {result : Except ReleaseError α}
    (clean : Clean before) (explained : ExplainedBy events result) :
    ExplainedBy (before ++ events) result := by
  cases explained with
  | success a rest => exact .success a (clean.append rest)
  | command code last rest fails passedOn =>
    exact .command code (by rw [last, List.append_assoc]) (clean.append rest) fails passedOn
  | plain rest one => exact .plain (clean.append rest) one

/-- Whether the failures of a stage may carry the code of a program. -/
def Stage.carriesCode : Stage → Bool
  | build | test => true
  | _ => false

theorem ReleaseError.exitCode_of_stage {error : ReleaseError}
    (plain : error.stage.carriesCode = false) : error.exitCode = 1 := by
  cases error with
  | buildFailed | testFailed => cases plain
  | _ => rfl

theorem Phase.exitCode_failure_none (phase : Phase) (target : TargetTriple) (reason : String) :
    (phase.failure target none reason).exitCode = 1 := by
  cases phase <;> rfl

theorem Phase.exitCode_failure_some (phase : Phase) (target : TargetTriple) (code : Int)
    (reason : String) :
    (phase.failure target (some code) reason).exitCode = if code = 0 then 1 else code := by
  cases phase <;> rfl

/-- A phase that goes by the wait status of its command agrees with it: a code is handed on, unless
it is zero although the command did not succeed. -/
theorem explainedBy_of_status {event : Event} {status : WaitStatus} (phase : Phase)
    (target : TargetTriple) (reason : String)
    (same : ∀ code, event.FailsWith code ↔ status.exitCode? = some code ∧ code ≠ 0) :
    ExplainedBy [event]
      (if status.isSuccess then .ok () else .error (phase.failure target status.code reason)) := by
  have clean_of_none (none : ∀ code, status.exitCode? = some code → code = 0) : Clean [event] :=
    clean_singleton.mpr fun code fails =>
      ((same code).mp fails).2 (none code ((same code).mp fails).1)
  cases success : status.isSuccess with
  | true =>
    refine .success () (clean_of_none fun code ended => ?_)
    rw [WaitStatus.exitCode?_of_isSuccess success, Option.some.injEq] at ended
    exact ended.symm
  | false =>
    change ExplainedBy [event]
      (.error (phase.failure target (status.exitCode?.map Int.ofNat) reason))
    -- A status that is no success may still hold the code zero; then there is none to hand on.
    match ended : status.exitCode? with
    | none =>
      exact .plain (clean_of_none (by simp [ended])) (phase.exitCode_failure_none ..)
    | some 0 =>
      exact .plain (clean_of_none (by simp [ended])) (phase.exitCode_failure_some ..)
    | some (code + 1) =>
      exact .command (code + 1) (List.nil_append _).symm nofun
        ((same _).mpr ⟨ended, Nat.succ_ne_zero code⟩) (phase.exitCode_failure_some ..)

theorem Event.failsWith_ran_lockFile {output : Output} {code : Nat} :
    (Event.ran lockFileCommand (.ok output)).FailsWith code ↔
      output.status.exitCode? = some code ∧ code ≠ 0 :=
  ⟨fun fails => by cases fails with | lockFile ended nonzero => exact ⟨ended, nonzero⟩,
    fun ⟨ended, nonzero⟩ => .lockFile ended nonzero⟩

theorem Event.failsWith_ranAttached_phase {program : String} {target : TargetTriple}
    {verbosity : Nat} {phase : Phase} {status : WaitStatus} {shown : Bytes} {code : Nat} :
    (Event.ranAttached (phaseCommand program target verbosity phase) (.ok status) shown).FailsWith
        code ↔ status.exitCode? = some code ∧ code ≠ 0 := by
  refine ⟨fun fails => ?_, fun ⟨ended, nonzero⟩ => .phase ended nonzero⟩
  -- The relation speaks of the commands of phases, and a case split needs a variable there.
  generalize command : phaseCommand program target verbosity phase = run at fails
  cases fails with
  | phase ended nonzero => exact ⟨ended, nonzero⟩

/-- A command that could not be run to its end is no command that failed by itself. -/
theorem clean_ran_error {command : Command} {error : ReleaseError} :
    Clean [.ran command (.error error)] :=
  clean_singleton.mpr nofun

theorem clean_ranAttached_error {command : Command} {error : ReleaseError} {shown : Bytes} :
    Clean [.ranAttached command (.error error) shown] :=
  clean_singleton.mpr nofun

/-- Of the commands whose output is collected, only the one that makes the lock file counts. -/
theorem clean_ran_of_ne {command : Command} {result : Except ReleaseError Output}
    (other : command ≠ lockFileCommand) : Clean [.ran command result] :=
  clean_singleton.mpr fun code fails => by
    cases fails with
    | lockFile => exact other rfl

theorem explainedBy_lockFileOutcome (target : TargetTriple) {answer : Except ReleaseError Output}
    (system : ∀ failure, answer = .error failure → failure.IsSystem) :
    ExplainedBy [.ran lockFileCommand answer] (lockFileOutcome target answer) := by
  cases answer with
  | error failure =>
    cases failure with
    | io source => exact .plain clean_ran_error rfl
    | timeout program seconds => exact .plain clean_ran_error rfl
    | _ => exact (system _ rfl).elim
  | ok output =>
    exact explainedBy_of_status .build target _ fun _ => Event.failsWith_ran_lockFile

theorem explainedBy_phaseOutcome (program : String) (target : TargetTriple) (verbosity : Nat)
    (phase : Phase) (shown : Bytes) {answer : Except ReleaseError WaitStatus}
    (system : ∀ failure, answer = .error failure → failure.IsSystem) :
    ExplainedBy [.ranAttached (phaseCommand program target verbosity phase) answer shown]
      (phaseOutcome phase target (phaseCommand program target verbosity phase) answer) := by
  cases answer with
  | error failure =>
    cases failure with
    | io source => exact .plain clean_ranAttached_error (phase.exitCode_failure_none ..)
    | timeout program seconds =>
      exact .plain clean_ranAttached_error (phase.exitCode_failure_none ..)
    | _ => exact (system _ rfl).elim
  | ok status =>
    exact explainedBy_of_status phase target _ fun _ => Event.failsWith_ranAttached_phase

/-! ## Tasks that agree with what they run -/

namespace Task

variable {σ α β : Type}

/-- However a task ends, that agrees with what it has run. -/
def Explained (task : Task σ α) : Prop :=
  ∀ world, ∃ events, (task.perform world).2.events = world.events ++ events ∧
    ExplainedBy events (task.perform world).1

theorem Explained.bind {task : Task σ α} {next : α → Task σ β} (first : task.Explained)
    (second : ∀ a, (next a).Explained) : (task >>= next).Explained := by
  intro world
  obtain ⟨events, added, explained⟩ := first world
  rcases ending : task.perform world with ⟨error | a, middle⟩
  · rw [ending] at added explained
    rw [perform_bind_of_error ending]
    refine ⟨events, added, ?_⟩
    cases explained with
    | command code last clean fails passedOn => exact .command code last clean fails passedOn
    | plain clean one => exact .plain clean one
  · rw [ending] at added explained
    rw [perform_bind_of_ok ending]
    obtain ⟨more, addedLater, explainedLater⟩ := second a middle
    cases explained with
    | success _ clean =>
      refine ⟨events ++ more, ?_, explainedLater.prepend clean⟩
      rw [addedLater, added, List.append_assoc]

/-- A task that only tells lines and fails without a code agrees with what it runs. -/
theorem Explained.of_onlyTells {task : Task σ α} (tells : task.OnlyTells)
    (plain : ∀ world error, (task.perform world).1 = .error error → error.exitCode = 1) :
    task.Explained := by
  intro world
  obtain ⟨-, lines, added⟩ := tells world
  have clean : Clean (lines.map fun line => Event.wroteLine line.1 line.2) :=
    List.forall_mem_map.mpr fun line _ => nofun
  refine ⟨_, added, ?_⟩
  rcases ending : task.perform world with ⟨error | a, after⟩
  · exact .plain clean (plain world error (by rw [ending]))
  · exact .success a clean

/-- A task that always answers, with one event, agrees with it if what the answer is taken to mean
does. -/
theorem Explained.of_meaning {task : Task σ α} {meaning : α → Except ReleaseError β}
    (answers : ∀ world, ∃ a after event, task.perform world = (.ok a, after) ∧
      after.events = world.events ++ [event] ∧ ExplainedBy [event] (meaning a)) :
    (do liftExcept (meaning (← task)) : Task σ β).Explained := by
  intro world
  obtain ⟨a, after, event, answered, added, explained⟩ := answers world
  refine ⟨[event], ?_, ?_⟩
  · rw [perform_bind_of_ok answered, perform_liftExcept, added]
  · rwa [perform_bind_of_ok answered, perform_liftExcept]

theorem Explained.pure (a : α) : (pure a : Task σ α).Explained :=
  .of_onlyTells (.pure a) nofun

/-- A task that only looks at the world and fails without a code agrees with what it runs. -/
theorem Explained.of_looks {task : Task σ α} {answer : World σ → Except ReleaseError α}
    (looks : ∀ world, task.perform world = (answer world, world))
    (plain : ∀ world error, answer world = .error error → error.exitCode = 1) :
    task.Explained := by
  refine .of_onlyTells (.of_events_eq fun world => ?_) fun world error failed => ?_
  · rw [looks]
    exact ⟨rfl, rfl⟩
  · rw [looks] at failed
    exact plain world error failed

end Task

theorem Stage.Owns.exitCode_eq_one {stage : Stage} {error : ReleaseError} (owned : stage.Owns error)
    (plain : stage.carriesCode = false) : error.exitCode = 1 :=
  ReleaseError.exitCode_of_stage (owned.1 ▸ plain)

namespace Task

variable {σ α : Type} {stage : Stage}

theorem FailsIn.explained {task : Task σ α} (fails : task.FailsIn stage) (tells : task.OnlyTells)
    (plain : stage.carriesCode = false) : task.Explained :=
  .of_onlyTells tells fun world error failed => (fails world error failed).exitCode_eq_one plain

theorem Explained.ofExcept {result : Except ReleaseError α}
    (owned : ∀ error, result = .error error → stage.Owns error)
    (plain : stage.carriesCode = false) : (liftExcept result : Task σ α).Explained :=
  .of_looks (perform_liftExcept result) fun _ error failed =>
    (owned error failed).exitCode_eq_one plain

end Task

section

variable {σ : Type} {executor : Executor σ}

/-- What the version control system answers never gives the exit status. -/
theorem explained_resolve (source : VersionSource) : (source.resolve executor).Explained := by
  cases source with
  | given label => exact .pure label
  | describe =>
    refine .of_meaning fun world => ⟨_, _, _, rfl, rfl, ?_⟩
    have clean (answer : Except ReleaseError Output) : Clean [.ran describeCommand answer] :=
      clean_ran_of_ne (by decide)
    rcases meant : describedVersion
      (executor.run describeCommand world.outside world.files).result with error | label
    · exact .plain (clean _) ((owns_of_describedVersion meant).exitCode_eq_one rfl)
    · exact .success label (clean _)

theorem explained_ensureLockFile (system : executor.OnlySystemFailures) (projectRoot : Path)
    (target : TargetTriple) : (ensureLockFile executor projectRoot target).Explained := by
  refine .bind (.of_onlyTells (.inspect _) nofun) fun present => ?_
  cases present with
  | true => exact .pure ()
  | false =>
    exact .of_meaning fun world => ⟨_, _, _, rfl, rfl,
      explainedBy_lockFileOutcome target (system.run lockFileCommand world.outside world.files)⟩

theorem explained_runPhase (system : executor.OnlySystemFailures) (settings : BuildSettings)
    (target : TargetTriple) (phase : Phase) :
    (runPhase executor settings target phase).Explained :=
  .of_meaning fun world => ⟨_, _, _, rfl, rfl, explainedBy_phaseOutcome _ target _ phase _
    (system.runAttached _ world.outside world.files)⟩

/-- What an installer runs never gives the exit status. -/
theorem explained_askForTool (installer : Installer σ) :
    (Task.askForTool installer.provider).Explained := by
  intro world
  have clean (result : Except ReleaseError String) : Clean [.askedForTool result] :=
    clean_singleton.mpr nofun
  rw [Task.perform_askForTool]
  refine ⟨_, rfl, ?_⟩
  match answered : (installer.provider.ensureInstalled world.outside world.files).1 with
  | .ok program => exact .success program (clean _)
  | .error error =>
    refine .plain (clean _) ((failsIn_askForTool installer world error ?_).exitCode_eq_one rfl)
    rw [Task.perform_askForTool, answered]

theorem explained_makePlan (config : ReleaseConfig) (host : HostSystem) :
    (makePlan config host executor).Explained :=
  .bind (.ofExcept (fun _ => owns_of_resolveTarget) rfl) fun _ =>
    (explained_resolve _).bind fun _ => .ofExcept (fun _ => owns_of_planFor) rfl

end

/-! ## Runs -/

/-- A row of tasks that agree with what they run does so as a whole. -/
theorem Course.Each.explained {σ α β : Type} {course : Course σ α β}
    (each : course.Each fun _ task => task.Explained) (a : α) : (course.task a).Explained := by
  induction course with
  | done => exact .pure a
  -- What the first task has run is clean if it hands on an answer, so the rest decides.
  | next stage task rest ih => exact (each.1 a).bind fun b => ih each.2 b

namespace ReleaseRun

variable {σ : Type} (run : ReleaseRun σ)

theorem explained_progress (line : String) : (run.progress line).Explained :=
  (run.failsIn_progress line .report).explained (onlyTells_progress line) rfl

/-- Each stage of a run agrees with what it runs. -/
theorem course_explained {installer : Installer σ} (provided : run.provider = installer.provider)
    (system : run.executor.OnlySystemFailures) :
    run.course.Each fun _ task => task.Explained := by
  refine ⟨fun _ => .ofExcept (fun _ => owns_of_resolveTarget) rfl,
    fun target => (explained_resolve _).bind fun version => .pure _,
    fun _ => .ofExcept (fun _ => owns_of_planFor) rfl,
    fun plan => ?bootstrap, fun _ => ?build, fun _ => ?test, fun plan => ?staging,
    fun _ => ?packaging, trivial⟩
  case bootstrap =>
    rw [provided]
    exact (run.explained_progress _).bind fun _ =>
      (explained_askForTool installer).bind fun program => .pure _
  case build =>
    exact (run.explained_progress _).bind fun _ => (explained_ensureLockFile system _ _).bind
      fun _ => (explained_runPhase system _ _ .build).bind fun _ => .pure _
  case test =>
    cases tests : run.config.skipTests with
    | true => exact .pure _
    | false => exact (explained_runPhase system _ _ .test).bind fun _ => .pure _
  case staging =>
    have staged : (stageAll run.platform plan.artifacts run.config.stagingParent :
        Task σ StagingFolder).Explained :=
      (failsIn_stageAll _ _ _).explained (onlyTells_stageAll _ _ _) rfl
    exact (run.explained_progress _).bind fun _ => staged.bind fun folder => .pure _
  case packaging =>
    refine .bind ?_ fun archive => (run.explained_progress _).bind fun _ => .pure _
    refine Task.FailsIn.explained (.andAlways ((run.failsIn_progress _ .packaging).bind fun _ =>
      failsIn_packArchive _ _ _ _)) (.andAlways ?_ (.tryChangeFiles _)) rfl
    exact (onlyTells_progress _).bind fun _ => onlyTells_packArchive _ _ _ _

theorem explained_execute {installer : Installer σ} (provided : run.provider = installer.provider)
    (system : run.executor.OnlySystemFailures) : run.execute.Explained := by
  rw [execute_eq_course]
  exact (run.course_explained provided system).explained ()

end ReleaseRun

namespace Program

variable {σ : Type} (program : Program σ) (options : Options)

theorem perform_configure (world : World σ) :
    (program.configure options).perform world =
      (options.resolve program.context world.files, world) := by
  rw [configure, Task.perform_bind_of_ok (Task.perform_inspect _ _), Task.perform_liftExcept]

theorem explained_configure : (program.configure options).Explained := by
  refine .of_looks (program.perform_configure options) fun world error failed => ?_
  rcases Options.isEarly_of_resolve failed with stage | stage <;>
    exact ReleaseError.exitCode_of_stage (stage ▸ rfl)

/-- A program agrees with what it runs, whether it releases or only shows the plan. -/
theorem explained_release
    (system : ∀ folder timeout, (program.executor folder timeout).OnlySystemFailures) :
    (program.release options).Explained := by
  refine (program.explained_configure options).bind fun config => ?_
  cases dry : options.dryRun with
  | true =>
    exact (explained_makePlan _ _).bind fun plan =>
      .bind (.of_onlyTells (.writeLine _ _) nofun) fun _ => .pure ""
  | false =>
    refine (ReleaseRun.explained_execute _ rfl (system _ _)).bind fun report => ?_
    cases options.json with
    | false => exact .pure ""
    | true =>
      cases program.stdoutFault with
      | none => exact .pure _
      | some fault =>
        refine .of_onlyTells (.throw _) fun _ error failed => ?_
        cases failed
        rfl

end Program

/-! ## What the exit status says -/

theorem Event.FailsWith.unique {event : Event} {code code' : Nat} (fails : event.FailsWith code)
    (other : event.FailsWith code') : code' = code := by
  cases fails with
  | lockFile ended =>
    exact Option.some.inj ((failsWith_ran_lockFile.mp other).1.symm.trans ended)
  | phase ended =>
    exact Option.some.inj ((failsWith_ranAttached_phase.mp other).1.symm.trans ended)

namespace Task

variable {σ α : Type} {task : Task σ α} {world : World σ}

/-- A task fails because of a command of the build or of the tests: that was the last thing it did
outside itself, and the command ended by itself with a code other than zero. -/
def FailsThrough (task : Task σ α) (world : World σ) (code : Nat) : Prop :=
  ∃ error after before event, task.perform world = (.error error, after) ∧
    after.events = world.events ++ (before ++ [event]) ∧ event.FailsWith code

/-- What the exit status of a task that is performed in a world says about how it ended. -/
structure SettlesExit (task : Task σ α) (world : World σ) : Prop where
  /-- It is zero exactly after a success. -/
  zero_iff : exitStatus (task.perform world).1 = 0 ↔ (task.perform world).1.isOk = true
  /-- A command of the build or of the tests that ended by itself with a code other than zero is
  what the task fails because of. -/
  failsThrough : ∀ events event code, (task.perform world).2.events = world.events ++ events →
    event ∈ events → event.FailsWith code → task.FailsThrough world code
  /-- Then the code is handed on. -/
  passedOn : ∀ code, task.FailsThrough world code → exitStatus (task.perform world).1 = code
  /-- It is one after any other failure. -/
  one : (task.perform world).1.isOk = false → (∀ code, ¬ task.FailsThrough world code) →
    exitStatus (task.perform world).1 = 1
  /-- After a failure its low eight bits are not zero. -/
  lowBits : (task.perform world).1.isOk = false → exitStatus (task.perform world).1 % 256 ≠ 0

section

variable {error : ReleaseError} {after : World σ} {events : List Event} {code : Nat}

theorem failsThrough_iff (ending : task.perform world = (.error error, after))
    (added : after.events = world.events ++ events) :
    task.FailsThrough world code ↔
      ∃ before event, events = before ++ [event] ∧ event.FailsWith code := by
  constructor
  · rintro ⟨error', after', before, event, ending', added', fails⟩
    cases ending.symm.trans ending'
    exact ⟨before, event, List.append_cancel_left (added.symm.trans added'), fails⟩
  · rintro ⟨before, event, rfl, fails⟩
    exact ⟨error, after, before, event, ending, added, fails⟩

/-- The only command that failed by itself is the last event. -/
theorem SettlesExit.of_command {before : List Event} {event : Event}
    (ending : task.perform world = (.error error, after))
    (added : after.events = world.events ++ (before ++ [event])) (clean : Clean before)
    (fails : event.FailsWith code) (passedOn : error.exitCode = code) :
    task.SettlesExit world := by
  have status : exitStatus (task.perform world).1 = code := by
    rw [ending]
    exact passedOn
  have failed : task.FailsThrough world code :=
    (failsThrough_iff ending added).mpr ⟨before, event, rfl, fails⟩
  have pos := fails.pos
  have lt := fails.lt
  constructor
  case zero_iff =>
    rw [status, ending]
    exact ⟨fun zero => by omega, nofun⟩
  case failsThrough =>
    intro events event' code' added' member fails'
    rw [ending, added, List.append_cancel_left_eq] at added'
    rw [← added', List.mem_append, List.mem_singleton] at member
    rcases member with member | rfl
    · exact absurd fails' (clean event' member code')
    · rwa [fails.unique fails']
  case passedOn =>
    intro code' through
    obtain ⟨before', event', split, fails'⟩ := (failsThrough_iff ending added).mp through
    obtain ⟨-, single⟩ := List.append_inj' split rfl
    rw [← List.singleton_inj.mp single] at fails'
    rw [status, fails.unique fails']
  case one => exact fun _ other => absurd failed (other code)
  case lowBits =>
    intro _
    rw [status]
    omega

/-- No command failed by itself, but something else did. -/
theorem SettlesExit.of_plain (ending : task.perform world = (.error error, after))
    (added : after.events = world.events ++ events) (clean : Clean events)
    (one : error.exitCode = 1) : task.SettlesExit world := by
  have status : exitStatus (task.perform world).1 = 1 := by
    rw [ending]
    exact one
  have other (code : Nat) : ¬ task.FailsThrough world code := by
    rw [failsThrough_iff ending added]
    rintro ⟨before, event, rfl, fails⟩
    exact clean event List.mem_concat_self code fails
  constructor
  case zero_iff =>
    rw [status, ending]
    exact ⟨nofun, nofun⟩
  case failsThrough =>
    intro events' event code added' member fails
    rw [ending, added, List.append_cancel_left_eq] at added'
    exact absurd fails (clean event (added' ▸ member) code)
  case passedOn => exact fun code through => absurd through (other code)
  case one => exact fun _ _ => status
  case lowBits =>
    rw [status]
    exact fun _ => by decide

theorem SettlesExit.of_ok {a : α} (ending : task.perform world = (.ok a, after))
    (added : after.events = world.events ++ events) (clean : Clean events) :
    task.SettlesExit world := by
  constructor
  case zero_iff =>
    rw [ending]
    exact ⟨fun _ => rfl, fun _ => rfl⟩
  case failsThrough =>
    intro events' event code added' member fails
    rw [ending, added, List.append_cancel_left_eq] at added'
    exact absurd fails (clean event (added' ▸ member) code)
  case passedOn =>
    rintro code ⟨_, _, _, _, ending', -⟩
    cases ending.symm.trans ending'
  case one =>
    rw [ending]
    exact nofun
  case lowBits =>
    rw [ending]
    exact nofun

end

/-- The exit status of a task that agrees with what it runs says how it ended. -/
theorem Explained.settlesExit (explained : task.Explained) (world : World σ) :
    task.SettlesExit world := by
  obtain ⟨events, added, agrees⟩ := explained world
  rcases ending : task.perform world with ⟨result, after⟩
  rw [ending] at added agrees
  cases agrees with
  | success a clean => exact .of_ok ending added clean
  | command code last clean fails passedOn =>
    rw [last] at added
    exact .of_command ending added clean fails passedOn
  | plain clean one => exact .of_plain ending added clean one

end Task

/-- A process that a signal ended has no exit code. -/
theorem WaitStatus.exitCode?_of_signal? {status : WaitStatus} {signal : Nat}
    (killed : status.signal? = some signal) : status.exitCode? = none := by
  unfold signal? at killed
  rw [exitCode?]
  by_cases ended : status.raw % 128 = 0
  · simp [ended] at killed
  · exact if_neg ended

theorem Program.exitCode_conclude {σ : Type} (program : Program σ) (work : Task σ String)
    (world : World σ) :
    (program.conclude work world).exitCode = exitStatus (work.perform world).1 := by
  unfold conclude
  rcases work.perform world with ⟨_ | _, _⟩ <;> rfl

theorem Program.exitCode_runOptions {σ : Type} (program : Program σ) (options : Options)
    (world : World σ) :
    (program.runOptions options world).exitCode =
      exitStatus ((program.release options).perform world).1 :=
  program.exitCode_conclude (program.release options) world

namespace ReleaseRun

/-- The exit status of a run with an installer as provider, and with an executor that gives any wait
status or says no more than the system: it is zero exactly after a success, and otherwise the code
with which a command of the build or of the tests ended by itself, if that is why it failed, and
else one. A command that a signal ended has no code. The same goes for a program as it is started
with options, where the system keeps the low eight bits. -/
theorem settlesExit_execute {σ : Type} (run : ReleaseRun σ) (installer : Installer σ)
    (provided : run.provider = installer.provider) (system : run.executor.OnlySystemFailures)
    (world : World σ) :
    run.execute.SettlesExit world ∧
    (∀ (status : WaitStatus) (signal : Nat),
      status.signal? = some signal → status.exitCode? = none) ∧
    ∀ (program : Program σ) (options : Options),
      (program.runOptions options world).exitCode =
        exitStatus ((program.release options).perform world).1 ∧
      ((∀ folder timeout, (program.executor folder timeout).OnlySystemFailures) →
        (program.release options).SettlesExit world ∧
        (((program.release options).perform world).1.isOk = false →
          (program.runOptions options world).processCode ≠ 0)) := by
  refine ⟨(run.explained_execute provided system).settlesExit world,
    fun _ _ => WaitStatus.exitCode?_of_signal?, fun program options =>
      ⟨program.exitCode_runOptions options world, fun onlySystem => ?_⟩⟩
  have settles := (program.explained_release options onlySystem).settlesExit world
  refine ⟨settles, fun failed => ?_⟩
  have lowBits := settles.lowBits failed
  rw [Outcome.processCode, program.exitCode_runOptions]
  omega

deriving instance DecidableEq for Event

/-- A program whose tests are answered as given. -/
def testProgram (answer : Except ReleaseError WaitStatus) : Program Unit where
  platform := (obliged ⟨"/out"⟩).platform
  context := { workingDirectory := ⟨"/p"⟩, home := ⟨"/home"⟩ }
  executor _ _ := testExecutor answer
  downloader := (testInstaller answer).downloader
  stdoutFault := none

/-- The command of a phase, as the tool gets it there. -/
def testCommand (phase : Phase) : Command := phaseCommand "cross" ⟨"a-b-c", by decide⟩ 0 phase

/-- Tests that end with a code of their own give it to the run, and to the program. -/
theorem settlesExit_execute_testing :
    let run := testing (.ok (.exited 3))
    let program := testProgram (.ok (.exited 3))
    let options : Options := { target := some "a-b-c", tag := some "1.0" }
    run.provider = (testInstaller (.ok (.exited 3))).provider ∧ run.executor.OnlySystemFailures ∧
      run.execute.FailsThrough (builtProject []) 3 ∧
      exitStatus (run.execute.perform (builtProject [])).1 = 3 ∧
      (program.runOptions options (builtProject [])).exitCode = 3 ∧
      (program.runOptions options (builtProject [])).processCode ≠ 0 := by
  intro run program options
  have system : (testExecutor (.ok (.exited 3))).OnlySystemFailures :=
    onlySystemFailures_testExecutor nofun
  obtain ⟨settles, -, started⟩ :=
    settlesExit_execute run (testInstaller _) rfl system (builtProject [])
  have through : run.execute.FailsThrough (builtProject []) 3 := by
    have last : (run.execute.perform (builtProject [])).2.events = [] ++
        [.askedForTool (.ok "cross"), .ranAttached (testCommand .build) (.ok (.exited 0)) [],
          .ranAttached (testCommand .test) (.ok (.exited 3)) []] := by
      decide +kernel
    exact settles.failsThrough _ _ 3 last (List.mem_of_getElem? (i := 2) rfl) (.phase rfl nofun)
  obtain ⟨status, spec⟩ := started program options
  obtain ⟨-, kept⟩ := spec fun _ _ => system
  refine ⟨rfl, system, through, settles.passedOn 3 through, by decide +kernel, kept ?_⟩
  decide +kernel

end ReleaseRun
end ReleasePacker
