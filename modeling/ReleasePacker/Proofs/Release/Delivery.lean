import ReleasePacker.Proofs.Plan
import ReleasePacker.Proofs.Release.Stages

/-!
# From a plan to an archive

Once the project is built, the files of the plan are staged and packed. Either staging fails and
leaves no trace, or packing starts from a full staging folder, and whatever it comes to, that folder
is removed afterwards if it can be.
-/

namespace ReleasePacker

/-- What is said about an archive that was to be packed for a plan. -/
def ReleasePlan.outcome (plan : ReleasePlan) (path : Path) :
    Except IoError (List String × String) → Except ReleaseError ReleaseReport
  | .ok (members, sha256) => .ok (ReleaseReport.ofArchive plan ⟨path, members, sha256⟩)
  | .error error => .error (.archiveWrite path error)

namespace ReleaseRun

variable {σ : Type} (run : ReleaseRun σ)

/-- The path of the archive of a plan. -/
def archivePath (plan : ReleasePlan) : Path := run.config.outputDir / plan.archive.fileName

/-- What staging the files of a plan comes to. -/
def staging (plan : ReleasePlan) (world : World σ) :
    Except ReleaseError StagingFolder × World σ :=
  (stageAll run.platform plan.artifacts run.config.stagingParent).perform
    (run.afterProgress ("Staging " ++ toString plan.artifacts.entries.length ++ " files...") world)

/-- What packing a staging folder for a plan comes to. -/
def packing (plan : ReleasePlan) (folder : StagingFolder) :
    FileTask (List String × String) :=
  packFiles run.platform folder.path run.config.outputDir (run.archivePath plan)

/-- The second half of a run is staging, packing, and removing the staging folder. -/
theorem deliver_eq (plan : ReleasePlan) (world : World σ) :
    (((run.deliver plan).perform world).1, ((run.deliver plan).perform world).2.files) =
      match run.staging plan world with
      | (.error error, staged) => (.error error, staged.files)
      | (.ok folder, staged) =>
        let ended := run.packing plan folder staged.files
        (plan.outcome (run.archivePath plan) ended.1,
          match ended.2.removeTree folder.path with
          | .ok files => files
          | .error _ => ended.2) := by
  rw [deliver, Task.perform_bind, pack, Task.perform_bind, perform_progress]
  dsimp only
  rw [Task.perform_bind, ← staging]
  rcases run.staging plan world with ⟨error | folder, staged⟩
  · rfl
  -- Lines of progress change no files, and the folder is discarded whatever packing comes to.
  · dsimp only
    rw [Task.perform_andAlways, Task.perform_bind, perform_progress]
    dsimp only
    rw [perform_packArchive, files_afterProgress, ← archivePath, ← packing]
    rcases run.packing plan folder staged.files with ⟨error | ⟨members, sha256⟩, files⟩
    · dsimp only
      rw [StagingFolder.perform_discard]
      dsimp only
      cases files.removeTree folder.path <;> rfl
    · dsimp only
      rw [StagingFolder.perform_discard, Task.perform_bind, perform_progress]
      dsimp only
      rw [Task.perform_pure]
      dsimp only
      rw [files_afterProgress]
      cases files.removeTree folder.path <;> rfl

/-- The ways in which the second half of a run ends. -/
inductive Delivery (plan : ReleasePlan) (world : World σ) :
    Except ReleaseError ReleaseReport × FileSystem → Prop
  /-- The files could not be staged. -/
  | unstaged (error : ReleaseError) (after : FileSystem)
    (same : world.files.SameEntries after) : Delivery plan world (.error error, after)
  /-- The files were staged; they were packed or not, and the staging folder went if it could. -/
  | staged (folder : StagingFolder) (created : FileSystem) (place : Location)
    (copies : List Tar.Member) (full : World σ)
    (ended : Except IoError (List String × String) × FileSystem) (after : FileSystem)
    (filled : run.staging plan world = (.ok folder, full))
    (making : world.files.makeTemporary run.platform.uniqueText FileSystem.makeFolder
      (run.config.stagingParent.getD run.platform.temporaryFolder) stagingFront "" =
        .ok (folder.path, created))
    (fresh : Staged world.files folder.path place [] created)
    (copied : List.Forall₂ (Copied world.files folder.path place) plan.artifacts.entries copies)
    (holds : Staged world.files folder.path place copies.reverse full.files)
    (packed : run.packing plan folder full.files = ended)
    (ending : PackEnding run.platform full.files folder.path run.config.outputDir
      (run.archivePath plan) ended)
    (removal : ended.2.removeTree folder.path = .ok after ∨
      after = ended.2 ∧ ∃ error, ended.2.removeTree folder.path = .error error) :
    Delivery plan world (plan.outcome (run.archivePath plan) ended.1, after)

theorem deliver_spec {plan : ReleasePlan} (named : plan.artifacts.WellNamed) (world : World σ) :
    run.Delivery plan world
      (((run.deliver plan).perform world).1, ((run.deliver plan).perform world).2.files) := by
  have told := run.files_afterProgress
    ("Staging " ++ toString plan.artifacts.entries.length ++ " files...") world
  rw [deliver_eq]
  rcases stageAll_spec run.platform named run.config.stagingParent (run.afterProgress
      ("Staging " ++ toString plan.artifacts.entries.length ++ " files...") world) with
    ⟨error, files, ending, same⟩ |
      ⟨folder, created, place, copies, files, ending, making, fresh, copied, holds⟩
  · rw [staging, ending]
    rw [told] at same
    exact .unstaged error files same
  · rw [told] at making fresh copied holds
    have filled : run.staging plan world = _ := ending
    obtain ⟨init, name, ends, finalName⟩ :=
      exists_steps_archive run.config.outputDir plan.archive
    rw [filled]
    refine .staged folder created place copies _ _ _ filled making fresh copied holds rfl
      (packFiles_spec run.platform folder.path run.config.outputDir ends finalName files) ?_
    dsimp only
    cases (run.packing plan folder files).2.removeTree folder.path with
    | ok rest => exact .inl rfl
    | error error => exact .inr ⟨rfl, error, rfl⟩

/-- A plan with which the second half starts has files with names. -/
theorem wellNamed_of_prepare {world start : World σ} {plan : ReleasePlan}
    (prepared : run.prepare.perform world = (.ok plan, start)) : plan.artifacts.WellNamed := by
  obtain ⟨made, middle, planned, building⟩ := Task.perform_bind_eq_ok.mp prepared
  obtain ⟨-, last, -, answer⟩ := Task.perform_bind_eq_ok.mp building
  rw [Task.perform_pure, Prod.mk.injEq] at answer
  cases answer.1
  exact wellNamed_of_makePlan planned

/-! ## A run and a project to look at -/

/-- A run that gets what it asks for: each command succeeds and does nothing, and so does asking for
the tool. -/
def obliged (outputDir : Path) : ReleaseRun Unit where
  config :=
    { ReleaseConfig.forProject ⟨"/p"⟩ with
      target := some "a-b-c"
      version := .given ⟨"1.0", by decide⟩
      outputDir
      manifest := { Manifest.standard with licenses := [] }
      skipTests := true }
  host := ⟨"Linux"⟩
  executor :=
    { run := fun _ outside files => ⟨.ok ⟨.exited 0, [], []⟩, [], outside, files⟩
      runAttached := fun _ outside files => ⟨.ok (.exited 0), [], outside, files⟩ }
  provider := { ensureInstalled := fun outside files => (.ok "cross", outside, files) }
  platform :=
    { uniqueText := fun _ => "a1B2c3"
      listingOrder := id
      listingOrder_perm := List.Perm.refl
      temporaryFolder := ⟨"/tmp"⟩
      architecture := "x86_64"
      operatingSystem := "linux"
      acceptsLine := fun _ => true }
  quiet := true

/-- A project that has been built, and a folder for its archives. -/
def builtProject (output : List (String × Node)) : World Unit where
  files :=
    { root := .folder
        [("p", .folder
          [("Cargo.lock", .file 0o644 []),
           ("kak-lsp.toml", .file 0o644 [99]),
           ("README.asciidoc", .file 0o644 [114]),
           ("target", .folder [("a-b-c", .folder [("release", .folder
             [("kak-lsp", .file 0o755 [98])])])])]),
         ("out", .folder output),
         ("tmp", .folder [])] }
  outside := ()

end ReleaseRun
end ReleasePacker
