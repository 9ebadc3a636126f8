import ReleasePacker.Proofs.Release.Stages

/-!
# Runs that are given the same answers

Until it stages files, a run depends on what it is answered when it has commands run and asks for
the tool, and on whether the project has a lock file. So a second run that is given the same answers
comes to the same plan, even if it asks less because there is a lock file now.
-/

namespace ReleasePacker

/-- Two events are no different answers to one question. -/
def Event.AgreesWith : Event → Event → Prop
  | ran command result, ran command' result' => command = command' → result = result'
  | ranAttached command result _, ranAttached command' result' _ =>
    command = command' → result = result'
  | askedForTool result, askedForTool result' => result = result'
  | _, _ => True

/-- No question is answered in two ways. -/
def AnsweredAlike (events events' : List Event) : Prop :=
  ∀ event ∈ events, ∀ event' ∈ events', event.AgreesWith event'

theorem AnsweredAlike.mono {events events' fewer : List Event}
    (alike : AnsweredAlike events events') (within : fewer ⊆ events') :
    AnsweredAlike events fewer :=
  fun event member event' member' => alike event member event' (within member')

/-- Neither the commands nor the tool change files. -/
structure ReleaseRun.KeepsFiles {σ : Type} (run : ReleaseRun σ) : Prop where
  ran : ∀ command outside files, (run.executor.run command outside files).files = files
  ranAttached : ∀ command outside files,
    (run.executor.runAttached command outside files).files = files
  askedForTool : ∀ outside files, (run.provider.ensureInstalled outside files).2.2 = files

/-- What others keep while they take their steps still holds when files are to be staged. -/
theorem ReleaseRun.kept_prepare {σ : Type} {run : ReleaseRun σ} {Holds : World σ → Prop}
    (kept : ∀ {before after}, run.External before after → Holds before → Holds after)
    {world : World σ} (start : Holds world) : Holds (run.prepare.perform world).2 := by
  have reached : Relation.ReflTransGen run.External world (run.prepare.perform world).2 :=
    delegates_prepare world
  generalize (run.prepare.perform world).2 = finish at reached ⊢
  induction reached with
  | refl => exact start
  | tail _ step ih => exact kept step ih

theorem ReleaseRun.KeepsFiles.files_external {σ : Type} {run : ReleaseRun σ}
    (keeps : run.KeepsFiles) {before after : World σ} (step : run.External before after) :
    after.files = before.files := by
  cases step with
  | ran command => exact keeps.ran _ _ _
  | ranAttached command => exact keeps.ranAttached _ _ _
  | askedForTool => exact keeps.askedForTool _ _
  | showed line => exact run.files_afterProgress line before

theorem ReleaseRun.KeepsFiles.files_prepare {σ : Type} {run : ReleaseRun σ} (keeps : run.KeepsFiles)
    (world : World σ) : (run.prepare.perform world).2.files = world.files :=
  run.kept_prepare (fun step same => (keeps.files_external step).trans same) rfl

/-- Who is asked in a second run gives the answers of the one who is asked in a first run, whatever
has happened before. -/
structure ReleaseRun.AnswersLike {σ τ : Type} (second : ReleaseRun τ) (first : ReleaseRun σ) :
    Prop where
  ran : ∀ command outside outside' files files',
    (second.executor.run command outside' files').result =
      (first.executor.run command outside files).result
  ranAttached : ∀ command outside outside' files files',
    (second.executor.runAttached command outside' files').result =
      (first.executor.runAttached command outside files).result
  askedForTool : ∀ outside outside' files files',
    (second.provider.ensureInstalled outside' files').1 =
      (first.provider.ensureInstalled outside files).1

/-- An event of a run is a line or an answer of those that the run asks. -/
inductive ReleaseRun.Accounts {σ : Type} (run : ReleaseRun σ) : Event → Prop
  | ran (command : Command) (outside : σ) (files : FileSystem) :
    run.Accounts (.ran command (run.executor.run command outside files).result)
  | ranAttached (command : Command) (outside : σ) (files : FileSystem) (shown : Bytes) :
    run.Accounts (.ranAttached command (run.executor.runAttached command outside files).result
      shown)
  | askedForTool (outside : σ) (files : FileSystem) :
    run.Accounts (.askedForTool (run.provider.ensureInstalled outside files).1)
  | wroteLine (line : String) (taken : Bool) : run.Accounts (.wroteLine line taken)

namespace ReleaseRun

variable {σ τ : Type} {run : ReleaseRun σ}

theorem External.accounts {world world' : World σ} (step : run.External world world')
    (before : ∀ event ∈ world.events, run.Accounts event) :
    ∀ event ∈ world'.events, run.Accounts event := by
  have added {event : Event} (new : run.Accounts event) :
      ∀ other ∈ world.events ++ [event], run.Accounts other :=
    List.forall_mem_append.mpr ⟨before, List.forall_mem_singleton.mpr new⟩
  cases step with
  | ran command => exact added (.ran command _ _)
  | ranAttached command => exact added (.ranAttached command _ _ _)
  | askedForTool => exact added (.askedForTool _ _)
  | showed line =>
    rw [afterProgress]
    split
    · exact before
    · exact added (.wroteLine _ _)

/-- All that happens in a run is answers of those that it asks, and lines. -/
theorem accounts_execute (run : ReleaseRun σ) {world : World σ} (new : world.events = []) :
    ∀ event ∈ (run.execute.perform world).2.events, run.Accounts event := by
  have prepared : ∀ event ∈ (run.prepare.perform world).2.events, run.Accounts event := by
    refine run.kept_prepare (fun step before => step.accounts before) ?_
    simp [new]
  rw [execute_eq]
  rcases ending : run.prepare.perform world with ⟨error | plan, start⟩
  · rw [Task.perform_bind_of_error ending]
    rwa [ending] at prepared
  · rw [Task.perform_bind_of_ok ending]
    rw [ending] at prepared
    obtain ⟨-, lines, events⟩ := onlyTells_deliver plan start
    rw [events, List.forall_mem_append]
    refine ⟨prepared, fun event inside => ?_⟩
    obtain ⟨line, -, rfl⟩ := List.mem_map.mp inside
    exact .wroteLine _ _

/-- Then no question is answered in two ways in the two runs. -/
theorem AnswersLike.answeredAlike {first : ReleaseRun σ} {second : ReleaseRun τ}
    (like : second.AnswersLike first) {world : World σ} {world' : World τ}
    (new : world.events = []) (new' : world'.events = []) :
    AnsweredAlike (first.execute.perform world).2.events
      (second.execute.perform world').2.events := by
  intro event inside event' inside'
  cases first.accounts_execute new event inside with
  | ran command outside files =>
    cases second.accounts_execute new' event' inside' with
    | ran command' outside' files' =>
      rintro rfl
      exact (like.ran _ _ _ _ _).symm
    | _ => trivial
  | ranAttached command outside files shown =>
    cases second.accounts_execute new' event' inside' with
    | ranAttached command' outside' files' shown' =>
      rintro rfl
      exact (like.ranAttached _ _ _ _ _).symm
    | _ => trivial
  | askedForTool outside files =>
    cases second.accounts_execute new' event' inside' with
    | askedForTool outside' files' => exact (like.askedForTool _ _ _ _).symm
    | _ => trivial
  | wroteLine => trivial

end ReleaseRun

/-! ## Tasks that repeat others -/

namespace Task

variable {σ τ α β : Type}

/-- A task only adds events. -/
def Adds (task : Task σ α) : Prop := ∀ world, world.events ⊆ (task.perform world).2.events

theorem Adds.pure (a : α) : (pure a : Task σ α).Adds := fun _ => List.Subset.refl _

theorem Adds.bind {task : Task σ α} {next : α → Task σ β} (first : task.Adds)
    (second : ∀ a, (next a).Adds) : (task >>= next).Adds := by
  intro world
  have added := first world
  rcases ending : task.perform world with ⟨error | a, middle⟩
  · rw [perform_bind_of_error ending]
    rwa [ending] at added
  · rw [perform_bind_of_ok ending]
    rw [ending] at added
    exact List.Subset.trans added (second a middle)

/-- In a second run, which works on other files, a task comes to what a task in a first run has come
to, if the second run is given the answers that are known from the first one. -/
structure Repeats (known : List Event) (files files' : FileSystem) (task : Task σ α)
    (task' : Task τ α) : Prop where
  adds : task.Adds
  adds' : task'.Adds
  repeats : ∀ {world world' a finish}, world.files = files → world'.files = files' →
    task.perform world = (.ok a, finish) → finish.events ⊆ known →
    AnsweredAlike known (task'.perform world').2.events →
      finish.files = files ∧ ∃ finish', task'.perform world' = (.ok a, finish') ∧
        finish'.files = files'

namespace Repeats

variable {known : List Event} {files files' : FileSystem}

/-- Tasks that repeat others do so one after another. -/
theorem bind {task : Task σ α} {task' : Task τ α} {next : α → Task σ β} {next' : α → Task τ β}
    (first : Repeats known files files' task task')
    (second : ∀ a, Repeats known files files' (next a) (next' a)) :
    Repeats known files files' (task >>= next) (task' >>= next') where
  adds := first.adds.bind fun a => (second a).adds
  adds' := first.adds'.bind fun a => (second a).adds'
  repeats {world world' b finish} start start' finished within alike := by
    obtain ⟨a, middle, begun, rest⟩ := perform_bind_eq_ok.mp finished
    have later := (second a).adds middle
    rw [rest] at later
    -- What the first of the two tasks was answered is among all that the pair was answered.
    have earlier : (task'.perform world').2.events ⊆
        ((task' >>= next').perform world').2.events := by
      rcases ending : task'.perform world' with ⟨error | a', middle'⟩
      · rw [perform_bind_of_error ending]
        exact List.Subset.refl _
      · rw [perform_bind_of_ok ending]
        exact (second a').adds' middle'
    obtain ⟨same, middle', begun', same'⟩ :=
      first.repeats start start' begun (List.Subset.trans later within) (alike.mono earlier)
    rw [perform_bind_of_ok begun'] at alike ⊢
    exact (second a).repeats same same' rest within alike

/-- Tasks that ask nothing and do nothing with files repeat each other if they come to the same. -/
theorem of_told {task : Task σ α} {task' : Task τ α} (tells : task.OnlyTells)
    (tells' : task'.OnlyTells) (result : Except ReleaseError α)
    (same : ∀ world, (task.perform world).1 = result ∧ (task.perform world).2.files = world.files)
    (same' : ∀ world,
      (task'.perform world).1 = result ∧ (task'.perform world).2.files = world.files) :
    Repeats known files files' task task' where
  adds world := by
    obtain ⟨-, lines, events⟩ := tells world
    rw [events]
    exact List.subset_append_left _ _
  adds' world := by
    obtain ⟨-, lines, events⟩ := tells' world
    rw [events]
    exact List.subset_append_left _ _
  repeats {world world' a finish} start start' finished _ _ := by
    have first := same world
    rw [finished] at first
    obtain ⟨result', kept⟩ := same' world'
    exact ⟨first.2.trans start, _, Prod.ext (result'.trans first.1.symm) rfl, kept.trans start'⟩

theorem pure (a : α) : Repeats known files files' (pure a : Task σ α) (Pure.pure a : Task τ α) :=
  .of_told (.pure a) (.pure a) (.ok a) (fun _ => ⟨rfl, rfl⟩) fun _ => ⟨rfl, rfl⟩

theorem of_except (result : Except ReleaseError α) :
    Repeats known files files' (liftExcept result : Task σ α) (liftExcept result : Task τ α) := by
  have tells {ρ : Type} : (liftExcept result : Task ρ α).OnlyTells :=
    .of_events_eq fun world => by rw [perform_liftExcept]; exact ⟨rfl, rfl⟩
  exact .of_told tells tells result (fun _ => by rw [perform_liftExcept]; exact ⟨rfl, rfl⟩)
    fun _ => by rw [perform_liftExcept]; exact ⟨rfl, rfl⟩

/-- What depends on the files of each run need only be repeated with these. -/
theorem of_inspect {look : FileSystem → β} {next : β → Task σ α} {next' : β → Task τ α}
    (adds : ∀ b, (next b).Adds) (adds' : ∀ b, (next' b).Adds)
    (onward : Repeats known files files' (next (look files)) (next' (look files'))) :
    Repeats known files files' (inspect look >>= next) (inspect look >>= next') where
  adds world := adds (look world.files) world
  adds' world := adds' (look world.files) world
  repeats {world world' a finish} start start' finished within alike := by
    subst start start'
    exact onward.repeats rfl rfl finished within alike

/-- A task that nothing can come of repeats one that nothing has come of. -/
theorem of_nothing {task : Task σ Unit} (adds : task.Adds)
    (kept : ∀ world, (task.perform world).2.files = world.files) :
    Repeats known files files' task (Pure.pure () : Task τ Unit) where
  adds := adds
  adds' := .pure ()
  repeats {world world' a finish} start start' finished _ _ := by
    have same := kept world
    rw [finished] at same
    exact ⟨same.trans start, world', rfl, start'⟩

/-- Two tasks that ask one question repeat each other. -/
theorem of_question {task : Task σ α} {task' : Task τ α}
    (Records : Event → Except ReleaseError α → Prop)
    (asks : ∀ world, ∃ event, (task.perform world).2.events = world.events ++ [event] ∧
      (task.perform world).2.files = world.files ∧ Records event (task.perform world).1)
    (asks' : ∀ world, ∃ event, (task'.perform world).2.events = world.events ++ [event] ∧
      (task'.perform world).2.files = world.files ∧ Records event (task'.perform world).1)
    (agree : ∀ event event' result result', Records event result → Records event' result' →
      event.AgreesWith event' → result = result') :
    Repeats known files files' task task' where
  adds world := by
    obtain ⟨event, events, -⟩ := asks world
    rw [events]
    exact List.subset_append_left _ _
  adds' world := by
    obtain ⟨event, events, -⟩ := asks' world
    rw [events]
    exact List.subset_append_left _ _
  repeats {world world' a finish} start start' finished within alike := by
    obtain ⟨event, events, kept, records⟩ := asks world
    obtain ⟨event', events', kept', records'⟩ := asks' world'
    rw [finished] at events kept records
    have member : event ∈ known := within (by rw [events]; simp)
    have member' : event' ∈ (task'.perform world').2.events := by rw [events']; simp
    exact ⟨kept.trans start, _,
      Prod.ext (agree _ _ _ _ records records' (alike event member event' member')).symm rfl,
      kept'.trans start'⟩

end Repeats

end Task

/-! ## The first half of a run -/

namespace ReleaseRun

variable {σ τ : Type} {first : ReleaseRun σ} {second : ReleaseRun τ} {known : List Event}
  {files files' : FileSystem}

theorem repeats_progress (line line' : String) :
    Task.Repeats known files files' (first.progress line) (second.progress line') :=
  .of_told (onlyTells_progress line) (onlyTells_progress line') (.ok ())
    (fun _ => by simp) fun _ => by simp

section

variable (keeps : first.KeepsFiles) (keeps' : second.KeepsFiles)
include keeps keeps'

theorem repeats_runCommand (command : Command) :
    Task.Repeats known files files' (Task.runCommand first.executor command)
      (Task.runCommand second.executor command) := by
  refine .of_question (fun event result =>
    ∃ answer, event = .ran command answer ∧ result = .ok answer) ?_ ?_ ?_
  · exact fun world => ⟨_, rfl, keeps.ran _ _ _, _, rfl, rfl⟩
  · exact fun world => ⟨_, rfl, keeps'.ran _ _ _, _, rfl, rfl⟩
  · rintro _ _ _ _ ⟨answer, rfl, rfl⟩ ⟨answer', rfl, rfl⟩ agrees
    exact congrArg Except.ok (agrees rfl)

theorem repeats_runAttached (command : Command) :
    Task.Repeats known files files' (Task.runAttached first.executor command)
      (Task.runAttached second.executor command) := by
  refine .of_question (fun event result =>
    ∃ answer shown, event = .ranAttached command answer shown ∧ result = .ok answer) ?_ ?_ ?_
  · exact fun world => ⟨_, rfl, keeps.ranAttached _ _ _, _, _, rfl, rfl⟩
  · exact fun world => ⟨_, rfl, keeps'.ranAttached _ _ _, _, _, rfl, rfl⟩
  · rintro _ _ _ _ ⟨answer, shown, rfl, rfl⟩ ⟨answer', shown', rfl, rfl⟩ agrees
    exact congrArg Except.ok (agrees rfl)

theorem repeats_askForTool :
    Task.Repeats known files files' (Task.askForTool first.provider)
      (Task.askForTool second.provider) := by
  refine .of_question (fun event result => event = .askedForTool result) ?_ ?_ ?_
  · intro world
    rw [Task.perform_askForTool]
    exact ⟨_, rfl, keeps.askedForTool _ _, rfl⟩
  · intro world
    rw [Task.perform_askForTool]
    exact ⟨_, rfl, keeps'.askedForTool _ _, rfl⟩
  · rintro _ _ _ _ rfl rfl agrees
    exact agrees

theorem repeats_makePlan (config : ReleaseConfig) (host : HostSystem) :
    Task.Repeats known files files' (makePlan config host first.executor)
      (makePlan config host second.executor) := by
  refine .bind (.of_except _) fun target => .bind ?_ fun version => .of_except _
  cases config.version with
  | describe => exact (repeats_runCommand keeps keeps' _).bind fun answer => .of_except _
  | given label => exact .pure label

/-- A project that had a lock file must have one again; a new one makes no difference. -/
theorem repeats_ensureLockFile (projectRoot : Path) (target : TargetTriple)
    (locked : files.isFile (projectRoot / "Cargo.lock") = true →
      files'.isFile (projectRoot / "Cargo.lock") = true) :
    Task.Repeats known files files' (ensureLockFile first.executor projectRoot target)
      (ensureLockFile second.executor projectRoot target) := by
  have making : Task.Repeats known files files'
      (Task.runCommand first.executor lockFileCommand >>= fun answer =>
        liftExcept (lockFileOutcome target answer))
      (Task.runCommand second.executor lockFileCommand >>= fun answer =>
        liftExcept (lockFileOutcome target answer)) :=
    (repeats_runCommand keeps keeps' _).bind fun _ => .of_except _
  have nothing : Task.Repeats known files files'
      (Task.runCommand first.executor lockFileCommand >>= fun answer =>
        liftExcept (lockFileOutcome target answer)) (pure () : Task τ Unit) := by
    refine .of_nothing making.adds fun world => ?_
    rw [Task.perform_bind, Task.perform_runCommand]
    dsimp only
    rw [Task.perform_liftExcept]
    exact keeps.ran _ _ _
  -- Whether something is made depends on the files of each run.
  rw [ensureLockFile, ensureLockFile]
  refine .of_inspect (fun present => ?_) (fun present => ?_) ?_
  · cases present with
    | true => exact .pure ()
    | false => exact making.adds
  · cases present with
    | true => exact .pure ()
    | false => exact making.adds'
  cases present : files.isFile (projectRoot / "Cargo.lock") with
  | true =>
    rw [locked present]
    exact .pure ()
  | false =>
    cases files'.isFile (projectRoot / "Cargo.lock") with
    | true => exact nothing
    | false => exact making

theorem repeats_runPhase (settings : BuildSettings) (target : TargetTriple) (phase : Phase) :
    Task.Repeats known files files' (runPhase first.executor settings target phase)
      (runPhase second.executor settings target phase) :=
  (repeats_runAttached keeps keeps' _).bind fun _ => .of_except _

theorem repeats_buildAndTest (settings : BuildSettings) (target : TargetTriple)
    (locked : files.isFile (settings.projectRoot / "Cargo.lock") = true →
      files'.isFile (settings.projectRoot / "Cargo.lock") = true) :
    Task.Repeats known files files' (buildAndTest first.executor settings target)
      (buildAndTest second.executor settings target) := by
  refine (repeats_ensureLockFile keeps keeps' _ target locked).bind fun _ =>
    (repeats_runPhase keeps keeps' settings target .build).bind fun _ => ?_
  cases settings.skipTests with
  | true => exact .pure _
  | false => exact (repeats_runPhase keeps keeps' settings target .test).bind fun _ => .pure _

/-- The first half of a run is repeated. -/
theorem repeats_prepare (config : second.config = first.config) (host : second.host = first.host)
    (locked : files.isFile (first.config.projectRoot / "Cargo.lock") = true →
      files'.isFile (first.config.projectRoot / "Cargo.lock") = true) :
    Task.Repeats known files files' first.prepare second.prepare := by
  have settings (program : String) :
      second.buildSettings program = first.buildSettings program := by
    rw [buildSettings, buildSettings, config]
  rw [prepare, prepare, config, host]
  refine (repeats_makePlan keeps keeps' _ _).bind fun plan => .bind ?_ fun _ => .pure plan
  refine (repeats_progress _ _).bind fun _ => (repeats_askForTool keeps keeps').bind
    fun program => (repeats_progress _ _).bind fun _ => .bind ?_ fun _ => .pure ()
  rw [settings]
  exact repeats_buildAndTest keeps keeps' _ _ locked

end

end ReleaseRun
end ReleasePacker
