import Mathlib.Logic.Relation
import ReleasePacker.Proofs.Packing
import ReleasePacker.Release

/-!
# The two halves of a run

Until a run stages files it changes nothing itself: it asks for a description of the project,
for the tool, and for commands to be run. What follows is its own work on files. Here the run is
cut at that point, and the first half is seen as a row of steps that others take.

## Main definitions

* `ReleaseRun.prepare`, `ReleaseRun.deliver` — the two halves
* `ReleaseRun.External` — one step that is left to others, or a line of progress
* `ExternalStep`, `World.steps` — the steps that a world has seen, each with its success
* `Attempt` — a list of steps carried out in order up to the first failure

## Main results

* `ReleaseRun.execute_eq` — a run is its two halves
* `ReleaseRun.delegates_prepare` — the first half leaves everything to others
* `ReleaseRun.onlyTells_deliver` — the second half leaves nothing to others
-/

namespace ReleasePacker

/-- A step that a run leaves to others. -/
inductive ExternalStep where
  /-- A command whose output is collected. -/
  | run (command : Command)
  /-- A command that writes to the error stream. -/
  | runAttached (command : Command)
  | askForTool
  deriving DecidableEq, Repr

/-- The step that an event records, and whether its result was a success. -/
def Event.external? : Event → Option (ExternalStep × Bool)
  | .ran command result => some (.run command, Task.succeeded result)
  | .ranAttached command result _ =>
    some (.runAttached command, (result.map WaitStatus.isSuccess).toOption.getD false)
  | .askedForTool result => some (.askForTool, result.isOk)
  | .downloaded _ _ => none
  | .wroteLine _ _ => none

/-- The steps that others have taken in a world, in order, each with its success. -/
def World.steps {σ : Type} (world : World σ) : List (ExternalStep × Bool) :=
  world.events.filterMap Event.external?

theorem World.steps_record {σ : Type} (world : World σ) (event : Event) :
    (world.record event).steps = world.steps ++ event.external?.toList := by
  rw [World.steps, World.record, List.filterMap_append]
  cases found : event.external? <;> simp [World.steps, found]

/-! ## Steps carried out in order -/

/-- The steps of a list are carried out in order, each after a success: up to a failure, or, if
`complete`, all of them. -/
inductive Attempt : List ExternalStep → List (ExternalStep × Bool) → (complete : Bool) → Prop
  | nil : Attempt [] [] true
  | failed (step : ExternalStep) (rest : List ExternalStep) :
    Attempt (step :: rest) [(step, false)] false
  | cons {rest : List ExternalStep} {performed : List (ExternalStep × Bool)} {complete : Bool}
    (step : ExternalStep) (tail : Attempt rest performed complete) :
    Attempt (step :: rest) ((step, true) :: performed) complete

namespace Attempt

variable {whole more : List ExternalStep} {performed later : List (ExternalStep × Bool)}
  {complete : Bool}

theorem isPrefix (attempt : Attempt whole performed complete) :
    performed.map Prod.fst <+: whole := by
  induction attempt with
  | nil => exact List.prefix_rfl
  | failed step rest => exact List.prefix_append [step] rest
  | cons step _ ih => exact List.prefix_cons_inj step |>.mpr ih

/-- Only the last step can have failed. -/
theorem succeeded_of_mem_dropLast (attempt : Attempt whole performed complete) :
    ∀ step ∈ performed.dropLast, step.2 = true := by
  induction attempt with
  | nil => simp
  | failed step rest => simp
  | @cons rest performed complete step tail ih =>
    intro found member
    cases performed with
    | nil => simp at member
    | cons head remaining =>
      rw [List.dropLast_cons_cons, List.mem_cons] at member
      rcases member with rfl | member
      · rfl
      · exact ih found member

/-- An attempt is complete exactly if each step was taken and succeeded. -/
theorem complete_iff (attempt : Attempt whole performed complete) :
    complete = true ↔ performed = whole.map fun step => (step, true) := by
  induction attempt with
  | nil => simp
  | failed step rest => simp
  | cons step _ ih => simpa using ih

theorem single (step : ExternalStep) (success : Bool) :
    Attempt [step] [(step, success)] success := by
  cases success
  · exact failed step []
  · exact cons step nil

theorem append (first : Attempt whole performed true) (second : Attempt more later complete) :
    Attempt (whole ++ more) (performed ++ later) complete := by
  generalize success : true = flag at first
  induction first with
  | nil => exact second
  | failed step rest => cases success
  | cons step _ ih => exact cons step (ih success)

theorem append_of_failed (first : Attempt whole performed false) (more : List ExternalStep) :
    Attempt (whole ++ more) performed false := by
  generalize failure : false = flag at first
  induction first with
  | nil => cases failure
  | failed step rest => exact failed step (rest ++ more)
  | cons step _ ih => exact cons step (ih failure)

end Attempt

namespace Task

variable {σ α β : Type} {world : World σ} {whole more : List ExternalStep}

/-- The steps that a task has others take are those of a list, up to the first failure, and the
task succeeds exactly if all of them do. -/
def Attempts (task : Task σ α) (world : World σ) (whole : List ExternalStep) : Prop :=
  ∃ performed, (task.perform world).2.steps = world.steps ++ performed ∧
    Attempt whole performed (task.perform world).1.isOk

theorem Attempts.bind {task : Task σ α} {next : α → Task σ β} (first : task.Attempts world whole)
    (second : ∀ a middle, task.perform world = (.ok a, middle) →
      (next a).Attempts middle more) :
    (task >>= next).Attempts world (whole ++ more) := by
  obtain ⟨performed, steps, attempt⟩ := first
  rcases ending : task.perform world with ⟨error | a, middle⟩
  -- After a failure none of the other steps is taken.
  · rw [ending] at steps attempt
    refine ⟨performed, ?_, ?_⟩
    · rw [perform_bind_of_error ending, steps]
    · rw [perform_bind_of_error ending]
      exact attempt.append_of_failed more
  · rw [ending] at steps attempt
    obtain ⟨later, moreSteps, moreAttempt⟩ := second a middle ending
    refine ⟨performed ++ later, ?_, ?_⟩
    · rw [perform_bind_of_ok ending, moreSteps, steps, List.append_assoc]
    · rw [perform_bind_of_ok ending]
      exact attempt.append moreAttempt

/-- A task that takes no steps leaves them to the next one. -/
theorem Attempts.bind_of_nothing {task : Task σ α} {next : α → Task σ β}
    (first : task.Attempts world []) (second : ∀ a middle, task.perform world = (.ok a, middle) →
      (next a).Attempts middle whole) :
    (task >>= next).Attempts world whole :=
  first.bind second

end Task

namespace Task

variable {σ : Type}

/-- The world after the tool was asked for. -/
def afterAsking (provider : ToolProvider σ) (world : World σ) : World σ :=
  let (result, outside, files) := provider.ensureInstalled world.outside world.files
  { files, outside, events := world.events ++ [.askedForTool result] }

@[simp] theorem perform_askForTool (provider : ToolProvider σ) (world : World σ) :
    (askForTool provider).perform world =
      ((provider.ensureInstalled world.outside world.files).1, afterAsking provider world) := by
  change (liftExcept (provider.ensureInstalled world.outside world.files).1 : Task σ String).perform
    (afterAsking provider world) = _
  rw [perform_liftExcept]

end Task

namespace ReleaseRun

variable {σ α β : Type} (run : ReleaseRun σ)

/-! ## Progress -/

/-- The world after a line of progress. -/
def afterProgress (line : String) (world : World σ) : World σ :=
  if run.quiet then world
  else world.record (.wroteLine line (run.platform.acceptsLine world.linesTried))

@[simp] theorem perform_progress (line : String) (world : World σ) :
    (run.progress line).perform world = (.ok (), run.afterProgress line world) := by
  rw [progress, afterProgress]
  split <;> rfl

@[simp] theorem files_afterProgress (line : String) (world : World σ) :
    (run.afterProgress line world).files = world.files := by
  rw [afterProgress]
  split <;> rfl

@[simp] theorem outside_afterProgress (line : String) (world : World σ) :
    (run.afterProgress line world).outside = world.outside := by
  rw [afterProgress]
  split <;> rfl

@[simp] theorem steps_afterProgress (line : String) (world : World σ) :
    (run.afterProgress line world).steps = world.steps := by
  rw [afterProgress]
  split
  · rfl
  · rw [World.steps_record]
    exact List.append_nil _

/-! ## The two halves -/

/-- With the plan made, the tool is asked for, and the project is built and tested with it. -/
def build (plan : ReleasePlan) : Task σ Unit := do
  run.progress ("Releasing " ++ plan.archive.name ++ " " ++ plan.archive.version.text ++ " for " ++
    plan.archive.target.text)
  let program ← Task.askForTool run.provider
  run.progress ("Building with " ++ program ++ "...")
  let _ ← buildAndTest run.executor (run.buildSettings program) plan.archive.target

/-- All that a run does before it stages files. -/
def prepare : Task σ ReleasePlan := do
  let plan ← makePlan run.config run.host run.executor
  run.build plan
  return plan

/-- What a run does with a plan once the project is built. -/
def deliver (plan : ReleasePlan) : Task σ ReleaseReport := do
  let archive ← run.pack plan
  let report := ReleaseReport.ofArchive plan archive
  run.progress report.summary
  return report

theorem execute_eq : run.execute = run.prepare >>= run.deliver := by
  simp [execute, prepare, build, deliver]

/-- A run gets as far as staging. -/
def ReachesStaging (world : World σ) : Prop :=
  ∃ plan start, run.prepare.perform world = (.ok plan, start)

/-- One step in which a run changes nothing itself: another program runs, the tool is asked for,
or a line of progress is shown. -/
inductive External : World σ → World σ → Prop
  | ran (command : Command) (world : World σ) :
    External world (Task.afterCommand run.executor command world)
  | ranAttached (command : Command) (world : World σ) :
    External world (Task.afterAttached run.executor command world)
  | askedForTool (world : World σ) : External world (Task.afterAsking run.provider world)
  | showed (line : String) (world : World σ) : External world (run.afterProgress line world)

/-- A task leaves everything to others. -/
def Delegates (task : Task σ α) : Prop :=
  ∀ world, Relation.ReflTransGen run.External world (task.perform world).2

variable {run}

theorem Delegates.bind {task : Task σ α} {next : α → Task σ β} (first : run.Delegates task)
    (second : ∀ a, run.Delegates (next a)) : run.Delegates (task >>= next) := by
  intro world
  have reached := first world
  rcases ending : task.perform world with ⟨error | a, middle⟩
  · rw [Task.perform_bind_of_error ending]
    rwa [ending] at reached
  · rw [Task.perform_bind_of_ok ending]
    rw [ending] at reached
    exact reached.trans (second a middle)

theorem Delegates.pure (a : α) : run.Delegates (pure a : Task σ α) :=
  fun _ => .refl

theorem Delegates.liftExcept (result : Except ReleaseError α) :
    run.Delegates (liftExcept result : Task σ α) := by
  intro world
  rw [Task.perform_liftExcept]

theorem Delegates.inspect (look : FileSystem → α) : run.Delegates (Task.inspect look : Task σ α) :=
  fun _ => .refl

theorem Delegates.runCommand (command : Command) :
    run.Delegates (Task.runCommand run.executor command) :=
  fun world => .single (.ran command world)

theorem Delegates.runAttached (command : Command) :
    run.Delegates (Task.runAttached run.executor command) :=
  fun world => .single (.ranAttached command world)

theorem Delegates.askForTool : run.Delegates (Task.askForTool run.provider) := by
  intro world
  rw [Task.perform_askForTool]
  exact .single (.askedForTool world)

theorem Delegates.progress (line : String) : run.Delegates (run.progress line) := by
  intro world
  rw [perform_progress]
  exact .single (.showed line world)

theorem delegates_makePlan : run.Delegates (makePlan run.config run.host run.executor) := by
  refine (Delegates.liftExcept _).bind fun target => Delegates.bind ?_ fun version =>
    Delegates.liftExcept _
  cases run.config.version with
  | describe => exact (Delegates.runCommand _).bind fun answer => Delegates.liftExcept _
  | given label => exact Delegates.pure label

theorem delegates_buildAndTest (settings : BuildSettings) (target : TargetTriple) :
    run.Delegates (buildAndTest run.executor settings target) := by
  have phase (kind : Phase) : run.Delegates (runPhase run.executor settings target kind) :=
    (Delegates.runAttached _).bind fun answer => Delegates.liftExcept _
  have lockFile : run.Delegates (ensureLockFile run.executor settings.projectRoot target) := by
    refine (Delegates.inspect _).bind fun present => ?_
    cases present with
    | true => exact Delegates.pure ()
    | false => exact (Delegates.runCommand _).bind fun answer => Delegates.liftExcept _
  refine lockFile.bind fun _ => (phase .build).bind fun _ => ?_
  cases settings.skipTests with
  | true => exact Delegates.pure _
  | false => exact (phase .test).bind fun _ => Delegates.pure _

theorem delegates_build (plan : ReleasePlan) : run.Delegates (run.build plan) :=
  (Delegates.progress _).bind fun _ => Delegates.askForTool.bind fun _ =>
    (Delegates.progress _).bind fun _ => (delegates_buildAndTest _ _).bind fun _ => .pure ()

/-- Until it stages files, a run changes nothing itself. -/
theorem delegates_prepare : run.Delegates run.prepare :=
  delegates_makePlan.bind fun plan => (delegates_build plan).bind fun _ => .pure plan

/-! ## The second half asks nobody -/

end ReleaseRun

theorem Task.OnlyTells.steps_eq {σ α : Type} {task : Task σ α} (tells : task.OnlyTells)
    (world : World σ) : (task.perform world).2.steps = world.steps := by
  obtain ⟨-, lines, events⟩ := tells world
  -- A line that was written is no step.
  have nothing : (lines.map fun line => Event.wroteLine line.1 line.2).filterMap
      Event.external? = [] := by
    simp [List.filterMap_map, Function.comp_def, Event.external?]
  rw [World.steps, events, List.filterMap_append, nothing, List.append_nil, World.steps]

namespace ReleaseRun

variable {σ : Type} {run : ReleaseRun σ}

theorem onlyTells_progress (line : String) : (run.progress line).OnlyTells := by
  rw [progress]
  split
  · exact .pure ()
  · exact .writeLine _ _

/-- Staging and packing leaves nothing to others. -/
theorem onlyTells_deliver (plan : ReleasePlan) : (run.deliver plan).OnlyTells := by
  have packing : (run.pack plan).OnlyTells := by
    refine (onlyTells_progress _).bind fun _ => ?_
    refine (onlyTells_stageAll _ _ _).bind fun folder => ?_
    refine .andAlways ?_ (.tryChangeFiles _)
    exact (onlyTells_progress _).bind fun _ => onlyTells_packArchive _ _ _ _
  exact packing.bind fun _ => (onlyTells_progress _).bind fun _ => .pure _

end ReleaseRun
end ReleasePacker
