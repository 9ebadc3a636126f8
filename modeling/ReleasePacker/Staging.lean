import ReleasePacker.Artifact
import ReleasePacker.FileSystem.Temporary
import ReleasePacker.World

/-!
# Staging

The files of a release are copied into a fresh folder, which holds nothing else and is removed
when it is no longer needed, also after a failure half way through.
-/

namespace ReleasePacker

/-- What the names of temporary folders start with. -/
def stagingFront : String := "kak-lsp-release-"

/-- A folder with copies of files. -/
structure StagingFolder where
  path : Path
  /-- The names of the files copied into it, in order. -/
  staged : List String
  deriving DecidableEq, Repr

namespace StagingFolder

variable {σ : Type}

/-- Makes a fresh folder, in the given one or where temporary folders go. -/
def create (platform : Platform) (parent : Option Path) : Task σ StagingFolder := do
  let world ← get
  match world.files.makeTemporary platform.uniqueText FileSystem.makeFolder
      (parent.getD platform.temporaryFolder) stagingFront "" with
  | .ok (path, files) =>
    set { world with files }
    return ⟨path, []⟩
  | .error error => throw (.io error)

/-- Removes the folder if it is still there. -/
def discard (folder : StagingFolder) : Task σ Unit :=
  Task.tryChangeFiles fun files => files.removeTree folder.path

/-- Removes the folder; it must still be there. -/
def close (folder : StagingFolder) : Task σ Unit :=
  Task.changeFiles (fun error => .io (.described .other (some error.message)))
    fun files => files.removeTree folder.path

/-- Copies a file into the folder, in place of an earlier one with its name. The disk may be full
before the copy is whole. -/
def stage (folder : StagingFolder) (artifact : Artifact) (shortage : Option Shortage := none) :
    Task σ StagingFolder := do
  if !(← Task.inspect fun files => files.isFile artifact.source) then
    throw (.missingArtifact artifact.source)
  Task.alterFiles ReleaseError.io fun files =>
    files.copyFile artifact.source (folder.path / artifact.fileName) shortage
  return { folder with staged := folder.staged ++ [artifact.fileName] }

/-- Copies files one after another and removes the folder at the first failure. -/
def stageEach : StagingFolder → List Artifact → Task σ StagingFolder
  | folder, [] => return folder
  | folder, artifact :: rest => do
    match ← observing (folder.stage artifact) with
    | .ok folder => folder.stageEach rest
    | .error error => do
      folder.discard
      throw error
where
  /-- A task that answers what another comes to. -/
  observing {α : Type} (task : Task σ α) : Task σ (Except ReleaseError α) := fun world =>
    match task world with
    | (result, world) => (.ok result, world)

end StagingFolder

/-- A fresh folder with copies of all files of a set. -/
def stageAll {σ : Type} (platform : Platform) (set : ArtifactSet) (parent : Option Path) :
    Task σ StagingFolder := do
  let folder ← StagingFolder.create platform parent
  folder.stageEach set.entries

end ReleasePacker
