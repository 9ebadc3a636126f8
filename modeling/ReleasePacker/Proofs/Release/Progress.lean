import ReleasePacker.Proofs.Release.Stages

/-!
# Lines of progress and what else happens

Lines of progress are shown between all stages of a run, and whether they are shown and whether the
error stream takes them must not make a difference to the rest. So a run is compared with the same
run on other terms: quiet or not, and with an error stream that takes other lines. Seen without the
lines, the two go side by side from the first task to the last.
-/

namespace ReleasePacker

/-- Whether an event is a line on the error stream. -/
def Event.isLine : Event → Bool
  | wroteLine _ _ => true
  | _ => false

namespace World

variable {σ : Type}

/-- What has happened in a world besides lines, in order. -/
def deeds (world : World σ) : List Event := world.events.filter fun event => !event.isLine

/-- The lines that were tried in a world, in order. -/
def lines (world : World σ) : List Event := world.events.filter Event.isLine

/-- A line is no deed. -/
theorem deeds_record_line (world : World σ) (line : String) (taken : Bool) :
    (world.record (.wroteLine line taken)).deeds = world.deeds := by
  rw [deeds, record, List.filter_append]
  exact List.append_nil _

/-- Two worlds differ at most in the lines that were tried in them, and in a quiet one these are
just those that were there before. -/
structure Beside (quiet : Bool) (before : List Event) (world world' : World σ) : Prop where
  files : world'.files = world.files
  outside : world'.outside = world.outside
  deeds : world'.deeds = world.deeds
  silent : quiet = true → world'.lines = before

end World

/-- The same run, told or kept quiet, to an error stream that takes other lines. -/
def ReleaseRun.told {σ : Type} (run : ReleaseRun σ) (quiet : Bool) (acceptsLine : Nat → Bool) :
    ReleaseRun σ :=
  { run with quiet, platform := { run.platform with acceptsLine } }

namespace Task

variable {σ α β : Type} {quiet : Bool} {before : List Event}

/-- Two tasks answer alike in worlds that are side by side, and leave them so. -/
def Beside (quiet : Bool) (before : List Event) (task task' : Task σ α) : Prop :=
  ∀ world world', World.Beside quiet before world world' →
    (task'.perform world').1 = (task.perform world).1 ∧
      World.Beside quiet before (task.perform world).2 (task'.perform world').2

namespace Beside

/-- A task that works on nothing but files goes beside itself. -/
theorem of_files {task : Task σ α} (work : FileSystem → Except ReleaseError α × FileSystem)
    (works : ∀ world, task.perform world =
      ((work world.files).1, { world with files := (work world.files).2 })) :
    Beside quiet before task task := by
  intro world world' beside
  rw [works, works, beside.files]
  exact ⟨rfl, rfl, beside.outside, beside.deeds, beside.silent⟩

theorem pure (a : α) : Beside quiet before (pure a : Task σ α) (Pure.pure a) :=
  of_files (fun files => (.ok a, files)) fun _ => rfl

theorem of_except (result : Except ReleaseError α) :
    Beside quiet before (liftExcept result : Task σ α) (liftExcept result) :=
  of_files (fun files => (result, files)) (perform_liftExcept result)

theorem bind {task task' : Task σ α} {next next' : α → Task σ β}
    (first : Beside quiet before task task')
    (second : ∀ a, Beside quiet before (next a) (next' a)) :
    Beside quiet before (task >>= next) (task' >>= next') := by
  intro world world' beside
  obtain ⟨alike, beside⟩ := first world world' beside
  rw [perform_bind, perform_bind]
  generalize task.perform world = ended at alike beside ⊢
  generalize task'.perform world' = ended' at alike beside ⊢
  obtain ⟨result, middle⟩ := ended
  obtain ⟨result', middle'⟩ := ended'
  obtain rfl : result' = result := alike
  cases result' with
  | error error => exact ⟨rfl, beside⟩
  | ok a => exact second a middle middle' beside

theorem andAlways {task task' : Task σ α} {cleanup cleanup' : Task σ Unit}
    (first : Beside quiet before task task') (second : Beside quiet before cleanup cleanup') :
    Beside quiet before (Task.andAlways task cleanup) (Task.andAlways task' cleanup') := by
  intro world world' beside
  obtain ⟨alike, beside⟩ := first world world' beside
  exact ⟨alike, (second _ _ beside).2⟩

theorem inspect (look : FileSystem → α) :
    Beside quiet before (Task.inspect look : Task σ α) (Task.inspect look) :=
  of_files (fun files => (.ok (look files), files)) (perform_inspect look)

theorem alterFiles (failure : IoError → ReleaseError)
    (change : FileSystem → Except IoError Unit × FileSystem) :
    Beside quiet before (Task.alterFiles failure change : Task σ Unit)
      (Task.alterFiles failure change) := by
  refine of_files (fun files => ((change files).1.mapError failure, (change files).2))
    fun world => ?_
  rw [perform_alterFiles]
  rcases change world.files with ⟨error | _, files⟩ <;> rfl

theorem tryChangeFiles (change : FileSystem → Except IoError FileSystem) :
    Beside quiet before (Task.tryChangeFiles change : Task σ Unit)
      (Task.tryChangeFiles change) := by
  refine of_files (fun files => (.ok (), (change files).toOption.getD files)) fun world => ?_
  rw [perform_tryChangeFiles]
  cases change world.files <;> rfl

/-- A task that is answered by others, who do not see the lines, goes beside itself. -/
theorem of_answer {task : Task σ α} (answer : σ → FileSystem → Except ReleaseError α)
    (after : σ → FileSystem → σ × FileSystem × Event)
    (deed : ∀ outside files, (after outside files).2.2.isLine = false)
    (answered : ∀ world, task.perform world = (answer world.outside world.files,
      { files := (after world.outside world.files).2.1
        outside := (after world.outside world.files).1
        events := world.events ++ [(after world.outside world.files).2.2] })) :
    Beside quiet before task task := by
  intro world world' beside
  rw [answered, answered, beside.outside, beside.files]
  have new := deed world.outside world.files
  refine ⟨rfl, rfl, rfl, ?_, fun silent => ?_⟩
  · have deeds := beside.deeds
    rw [World.deeds, World.deeds] at deeds ⊢
    rw [List.filter_append, List.filter_append, deeds]
  · have lines := beside.silent silent
    rw [World.lines] at lines ⊢
    rw [List.filter_append, lines, List.filter_singleton, new]
    simp

theorem runCommand (executor : Executor σ) (command : Command) :
    Beside quiet before (Task.runCommand executor command) (Task.runCommand executor command) :=
  of_answer (fun outside files => .ok (executor.run command outside files).result)
    (fun outside files =>
      let reply := executor.run command outside files
      (reply.outside, reply.files, .ran command reply.result))
    (fun _ _ => rfl) (perform_runCommand executor command)

theorem runAttached (executor : Executor σ) (command : Command) :
    Beside quiet before (Task.runAttached executor command) (Task.runAttached executor command) :=
  of_answer (fun outside files => .ok (executor.runAttached command outside files).result)
    (fun outside files =>
      let reply := executor.runAttached command outside files
      (reply.outside, reply.files, .ranAttached command reply.result reply.shown))
    (fun _ _ => rfl) (perform_runAttached executor command)

theorem askForTool (provider : ToolProvider σ) :
    Beside quiet before (Task.askForTool provider) (Task.askForTool provider) :=
  of_answer (fun outside files => (provider.ensureInstalled outside files).1)
    (fun outside files =>
      let answer := provider.ensureInstalled outside files
      (answer.2.1, answer.2.2, .askedForTool answer.1))
    (fun _ _ => rfl) (perform_askForTool provider)

end Beside

end Task

/-! ## Staging and packing do not look at the error stream -/

section

variable (platform : Platform) (acceptsLine : Nat → Bool)

theorem stageAll_acceptsLine {σ : Type} (set : ArtifactSet) (parent : Option Path) :
    stageAll { platform with acceptsLine } set parent =
      (stageAll platform set parent : Task σ StagingFolder) := by
  unfold stageAll StagingFolder.create
  dsimp only

theorem topLevelFiles_acceptsLine (files : FileSystem) (folder : Path) :
    topLevelFiles { platform with acceptsLine } files folder =
      topLevelFiles platform files folder := by
  unfold topLevelFiles
  dsimp only

theorem writeArchive_acceptsLine (folder : Path) (names : List String) (outputDir target : Path) :
    writeArchive { platform with acceptsLine } folder names outputDir target =
      writeArchive platform folder names outputDir target := by
  unfold writeArchive
  dsimp only

theorem packFiles_acceptsLine (folder outputDir target : Path) :
    packFiles { platform with acceptsLine } folder outputDir target =
      packFiles platform folder outputDir target := by
  unfold packFiles
  simp only [topLevelFiles_acceptsLine, writeArchive_acceptsLine]

theorem packArchive_acceptsLine {σ : Type} (folder : StagingFolder) (name : ArchiveName)
    (outputDir : Path) :
    packArchive { platform with acceptsLine } folder name outputDir =
      (packArchive platform folder name outputDir : Task σ ReleaseArchive) := by
  unfold packArchive
  simp only [packFiles_acceptsLine]

end

/-! ## The parts of a run -/

section

variable {σ : Type} {quiet : Bool} {before : List Event}

theorem beside_makePlan (config : ReleaseConfig) (host : HostSystem) (executor : Executor σ) :
    Task.Beside quiet before (makePlan config host executor) (makePlan config host executor) := by
  refine .bind (.of_except _) fun target => .bind ?_ fun version => .of_except _
  cases config.version with
  | describe => exact (Task.Beside.runCommand executor _).bind fun answer => .of_except _
  | given label => exact .pure label

theorem beside_buildAndTest (executor : Executor σ) (settings : BuildSettings)
    (target : TargetTriple) :
    Task.Beside quiet before (buildAndTest executor settings target)
      (buildAndTest executor settings target) := by
  have phase (kind : Phase) : Task.Beside quiet before (runPhase executor settings target kind)
      (runPhase executor settings target kind) :=
    (Task.Beside.runAttached executor _).bind fun answer => .of_except _
  have lockFile : Task.Beside quiet before (ensureLockFile executor settings.projectRoot target)
      (ensureLockFile executor settings.projectRoot target) := by
    refine (Task.Beside.inspect _).bind fun present => ?_
    cases present with
    | true => exact .pure ()
    | false => exact (Task.Beside.runCommand executor _).bind fun answer => .of_except _
  refine lockFile.bind fun _ => (phase .build).bind fun _ => ?_
  cases settings.skipTests with
  | true => exact .pure _
  | false => exact (phase .test).bind fun _ => .pure _

namespace StagingFolder

theorem beside_discard (folder : StagingFolder) :
    Task.Beside quiet before (folder.discard : Task σ Unit) folder.discard :=
  .tryChangeFiles _

theorem beside_stage (folder : StagingFolder) (artifact : Artifact) :
    Task.Beside quiet before (folder.stage artifact : Task σ StagingFolder)
      (folder.stage artifact) := by
  refine (Task.Beside.inspect _).bind fun present => ?_
  cases present with
  | true => exact (Task.Beside.alterFiles _ _).bind fun _ => .pure _
  | false => exact .of_except (.error _)

theorem beside_stageEach (artifacts : List Artifact) (folder : StagingFolder) :
    Task.Beside quiet before (folder.stageEach artifacts : Task σ StagingFolder)
      (folder.stageEach artifacts) := by
  induction artifacts generalizing folder with
  | nil => exact .pure folder
  | cons artifact rest ih =>
    have observed : Task.Beside quiet before
        (stageEach.observing (folder.stage artifact) : Task σ _)
        (stageEach.observing (folder.stage artifact)) := by
      intro world world' beside
      obtain ⟨alike, beside⟩ := folder.beside_stage artifact world world' beside
      exact ⟨congrArg Except.ok alike, beside⟩
    refine observed.bind fun answer => ?_
    cases answer with
    | ok folder => exact ih folder
    | error error => exact folder.beside_discard.bind fun _ => .of_except (.error error)

end StagingFolder

theorem beside_stageAll (platform : Platform) (set : ArtifactSet) (parent : Option Path) :
    Task.Beside quiet before (stageAll platform set parent : Task σ StagingFolder)
      (stageAll platform set parent) := by
  refine .bind ?_ fun folder => folder.beside_stageEach set.entries
  refine .of_files (fun files =>
    let made := files.makeTemporary platform.uniqueText FileSystem.makeFolder
      (parent.getD platform.temporaryFolder) stagingFront ""
    ((made.mapError .io).map fun found => ⟨found.1, []⟩, (made.map Prod.snd).toOption.getD files))
    fun world => ?_
  rw [StagingFolder.perform_create]
  cases world.files.makeTemporary platform.uniqueText FileSystem.makeFolder
    (parent.getD platform.temporaryFolder) stagingFront "" <;> rfl

theorem beside_packArchive (platform : Platform) (folder : StagingFolder) (name : ArchiveName)
    (outputDir : Path) :
    Task.Beside quiet before (packArchive platform folder name outputDir : Task σ ReleaseArchive)
      (packArchive platform folder name outputDir) := by
  let path := outputDir / name.fileName
  refine .of_files (fun files =>
    let packed := packFiles platform folder.path outputDir path files
    ((packed.1.mapError (.archiveWrite path)).map fun answer => ⟨path, answer.1, answer.2⟩,
      packed.2)) fun world => ?_
  rw [perform_packArchive]
  rcases packFiles platform folder.path outputDir (outputDir / name.fileName) world.files
    with ⟨_ | _, _⟩ <;> rfl

end

namespace ReleaseRun

variable {σ : Type} (run : ReleaseRun σ) (quiet : Bool) (acceptsLine : Nat → Bool)
  {before : List Event}

theorem deeds_afterProgress (line : String) (world : World σ) :
    (run.afterProgress line world).deeds = world.deeds := by
  rw [afterProgress]
  split
  · rfl
  · exact world.deeds_record_line ..

/-- A line may be tried in one world, in the other, in both or in none. -/
theorem beside_progress (line : String) :
    Task.Beside quiet before (run.progress line) ((run.told quiet acceptsLine).progress line) := by
  intro world world' beside
  rw [perform_progress, perform_progress]
  refine ⟨rfl, ?_, ?_, ?_, fun silent => ?_⟩
  · rw [files_afterProgress, files_afterProgress, beside.files]
  · rw [outside_afterProgress, outside_afterProgress, beside.outside]
  · rw [deeds_afterProgress, deeds_afterProgress, beside.deeds]
  · subst silent
    exact beside.silent rfl

theorem platform_told :
    (run.told quiet acceptsLine).platform = { run.platform with acceptsLine } := rfl

theorem beside_pack (plan : ReleasePlan) :
    Task.Beside quiet before (run.pack plan) ((run.told quiet acceptsLine).pack plan) := by
  rw [pack, pack]
  simp only [platform_told, stageAll_acceptsLine, packArchive_acceptsLine]
  refine (run.beside_progress quiet acceptsLine _).bind fun _ => ?_
  refine (beside_stageAll run.platform plan.artifacts run.config.stagingParent).bind
    fun folder => ?_
  refine .andAlways ?_ folder.beside_discard
  refine (run.beside_progress quiet acceptsLine _).bind fun _ => ?_
  exact beside_packArchive run.platform folder plan.archive run.config.outputDir

/-- A run goes beside the same run on other terms. -/
theorem beside_execute :
    Task.Beside quiet before run.execute (run.told quiet acceptsLine).execute := by
  refine (beside_makePlan run.config run.host run.executor).bind fun plan => ?_
  refine (run.beside_progress quiet acceptsLine _).bind fun _ => ?_
  refine (Task.Beside.askForTool run.provider).bind fun program => ?_
  refine (run.beside_progress quiet acceptsLine _).bind fun _ => ?_
  refine (beside_buildAndTest run.executor (run.buildSettings program) _).bind fun _ => ?_
  refine (run.beside_pack quiet acceptsLine plan).bind fun archive => ?_
  exact (run.beside_progress quiet acceptsLine _).bind fun _ => .pure _

/-- Lines of progress have no influence on a run, whether they are shown or not and whichever of
them the error stream takes: the run answers the same, has the same done by others in the same
order, and leaves the same files, where temporary names are drawn alike. A run that is kept quiet
tries no line at all. -/
theorem execute_told (world : World σ) :
    let finish := run.execute.perform world
    let finish' := (run.told quiet acceptsLine).execute.perform world
    finish'.1 = finish.1 ∧ finish'.2.files = finish.2.files ∧
      finish'.2.outside = finish.2.outside ∧ finish'.2.deeds = finish.2.deeds ∧
      ((run.told true acceptsLine).execute.perform world).2.lines = world.lines := by
  intro finish finish'
  have start (quiet : Bool) : World.Beside quiet world.lines world world :=
    ⟨rfl, rfl, rfl, fun _ => rfl⟩
  obtain ⟨alike, beside⟩ := run.beside_execute quiet acceptsLine world world (start quiet)
  obtain ⟨-, hushed⟩ := run.beside_execute true acceptsLine world world (start true)
  exact ⟨alike, beside.files, beside.outside, beside.deeds, hushed.silent rfl⟩

end ReleaseRun

end ReleasePacker
