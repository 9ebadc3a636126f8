import Mathlib.Data.List.Forall2
import ReleasePacker.Proofs.FileSystem.Crossing
import ReleasePacker.Proofs.FileSystem.Mentions
import ReleasePacker.Proofs.Staging

/-!
# When copying into a staging folder succeeds

The name of a staging folder is new, so no path that was there before leads into it or through it,
and what is found at a path while the folder is there is what is found without it. Then all files
that can be read can be copied into it, as long as their copies can have their names.
-/

namespace ReleasePacker

/-! ## What is found while the folder is there -/

namespace Staged

variable {start files after : FileSystem} {path source : Path} {front place location : Location}
  {members : List Tar.Member} {name : String} {mode : Nat} {content : Bytes}

theorem kept (staged : Staged start path place members files)
    (there : start.entryAt location ≠ none) : files.entryAt location = start.entryAt location :=
  staged.outside location fun below =>
    there (FileSystem.entryAt_eq_none_of_below staged.fresh below)

/-- What a path led to is still found, if it is no folder. -/
theorem find_of_start (staged : Staged start path place members files) {last : Bool} {node : Node}
    (found : start.find source last = .ok (location, node)) (leaf : node.entry ≠ .folder) :
    files.find source last = .ok (location, node) := by
  obtain ⟨leads, held⟩ := FileSystem.find_eq_ok.mp found
  rw [FileSystem.get?_eq_leaf leaf] at held
  refine FileSystem.find_eq_ok.mpr ⟨FileSystem.follow_of_kept leads staged.workingDirectory
    fun _ there => .of_eq (staged.kept there).symm, (FileSystem.get?_eq_leaf leaf).mpr ?_⟩
  rw [staged.kept (by rw [held]; exact nofun), held]

theorem enters (staged : Staged start path place members files) :
    files.EntersFolder path place :=
  .of_locate (staged.leads true) (FileSystem.entryAt_of_get? staged.folder)

/-- Where the name of the staging folder does not occur, everything is as it was. -/
theorem entryAt_of_notMem (staged : Staged start path (front ++ [name]) members files)
    (other : name ∉ location) : files.entryAt location = start.entryAt location := by
  refine staged.outside location ?_
  rintro ⟨back, rfl⟩
  exact other (by simp)

/-- A staging folder holds no links. -/
theorem link_of_link (staged : Staged start path place members files)
    {target : Path} (held : files.entryAt location = some (.link target)) :
    start.entryAt location = some (.link target) := by
  -- In the folder there are only files, and beside it everything is as it was.
  by_cases below : place <+: location
  · obtain ⟨back, rfl⟩ := below
    rw [FileSystem.entryAt, Node.entryAt, Node.get?_append, staged.folder, Option.bind_some] at held
    cases back with
    | nil => cases held
    | cons name rest =>
      rw [Node.get?_cons] at held
      obtain ⟨node, found, same⟩ := Option.map_eq_some_iff.mp held
      obtain ⟨child, inside, deeper⟩ := Option.bind_eq_some_iff.mp found
      obtain ⟨before, after, split, -⟩ := List.lookup_eq_some_iff.mp inside
      have member : (name, child) ∈ members.map Tar.Member.node := by
        change members.map Tar.Member.node = _ at split
        rw [split]
        exact List.mem_append_right before List.mem_cons_self
      obtain ⟨copy, -, file⟩ := List.mem_map.mp member
      cases file
      cases rest with
      | nil =>
        cases deeper
        cases same
      | cons next more => cases deeper
  · rw [← staged.outside location below, held]

/-- A path that has nothing to do with the staging folder leads to the same file without it. -/
theorem find_iff (staged : Staged start path (front ++ [name]) members files)
    (unmentioned : .enter name ∉ FileSystem.steps source)
    (unlinked : ∀ l target, start.entryAt l = some (.link target) →
      .enter name ∉ FileSystem.steps target)
    (outside : name ∉ start.workingDirectory) {last : Bool} {node : Node}
    (leaf : node.entry ≠ .folder) :
    files.find source last = .ok (location, node) ↔
      start.find source last = .ok (location, node) := by
  -- The folder can only add to what is found, and only to paths that mention it.
  refine ⟨fun found => ?_, fun found => staged.find_of_start found leaf⟩
  exact FileSystem.find_of_unmentioned found leaf unmentioned
    (fun l target held => unlinked l target (staged.link_of_link held))
    (by rwa [staged.workingDirectory]) staged.workingDirectory.symm
    fun l other => (staged.entryAt_of_notMem other).symm

end Staged

/-! ## What can be copied -/

namespace Staged

variable {start files after : FileSystem} {path source : Path} {place location : Location}
  {members : List Tar.Member} {name : String} {mode : Nat} {content : Bytes}

/-- A file that can be read can be copied to a free name. -/
theorem exists_copyFile (staged : Staged start path place members files)
    (plain : Path.IsName name) (free : name ∉ members.map Tar.Member.name)
    (accepted : FileSystem.checkPath (path / name) = .ok ())
    (short : (Utf8.encode name).length ≤ FileSystem.maxNameBytes)
    (found : files.find source = .ok (location, .file mode content)) :
    ∃ after, files.copyFile source (path / name) = (.ok (), after) := by
  have leads : files.follow (path / name) true = .ok (.free place name false) :=
    staged.enters.follow_free plain accepted short (staged.entryAt_eq_none free)
  obtain ⟨after, copied, -⟩ := staged.copyFile_of_follow free leads found rfl
  exact ⟨after, copied⟩

/-- If one file can be copied to a free name, it can be read, and the name is one that files can
have there. -/
theorem ready_of_copyFile (staged : Staged start path place members files)
    (plain : Path.IsName name) (free : name ∉ members.map Tar.Member.name)
    (copied : files.copyFile source (path / name) = (.ok (), after)) :
    (∃ location mode content, files.find source = .ok (location, .file mode content)) ∧
      FileSystem.checkPath (path / name) = .ok () ∧
      (Utf8.encode name).length ≤ FileSystem.maxNameBytes := by
  rcases staged.copyFile_cases plain free source with
    ⟨error, unchanged⟩ | ⟨location, node, opened, after', found, readable, leads, copied', -⟩
  · cases copied.symm.trans unchanged
  · rcases Node.reading_cases readable with ⟨-, rfl⟩ | ⟨error, breaks, -⟩
    · exact ⟨⟨_, _, _, found⟩, (FileSystem.follow_eq_ok.mp leads).1,
        FileSystem.length_le_of_follow plain leads⟩
    · rw [breaks] at copied'
      cases copied.symm.trans copied'

end Staged

/-- The copies have the names of the files from which they were made. -/
theorem Copied.names_eq {start : FileSystem} {path : Path} {place : Location}
    {artifacts : List Artifact} {copies : List Tar.Member}
    (copied : List.Forall₂ (Copied start path place) artifacts copies) :
    copies.map Tar.Member.name = artifacts.map Artifact.fileName := by
  rw [← List.forall₂_eq_eq_eq]
  exact List.forall₂_map_left_iff.mpr (List.forall₂_map_right_iff.mpr
    (copied.flip.imp fun _ _ same => same.1))

namespace StagingFolder

variable {σ : Type} {world middle finish : World σ} {folder folder' : StagingFolder}
  {artifacts : List Artifact}

/-- All files can be staged if each can be read and its copy can have its name. -/
theorem exists_stageEach {start : FileSystem} {place : Location} {members : List Tar.Member}
    (staged : Staged start folder.path place members world.files)
    (plain : ∀ artifact ∈ artifacts, Path.IsName artifact.fileName)
    (free : ∀ artifact ∈ artifacts, artifact.fileName ∉ members.map Tar.Member.name)
    (nodup : (artifacts.map Artifact.fileName).Nodup)
    (sources : ∀ artifact ∈ artifacts, ∃ location mode content,
      start.find artifact.source = .ok (location, .file mode content))
    (names : ∀ artifact ∈ artifacts,
      FileSystem.checkPath (folder.path / artifact.fileName) = .ok () ∧
        (Utf8.encode artifact.fileName).length ≤ FileSystem.maxNameBytes) :
    ∃ folder' finish, (folder.stageEach artifacts).perform world = (.ok folder', finish) := by
  induction artifacts generalizing folder members world with
  | nil => exact ⟨folder, world, rfl⟩
  | cons artifact rest ih =>
    rw [List.forall_mem_cons] at plain free sources names
    rw [List.map_cons, List.nodup_cons] at nodup
    obtain ⟨location, mode, content, found⟩ := sources.1
    have found' := staged.find_of_start found nofun
    obtain ⟨files, copied⟩ :=
      staged.exists_copyFile plain.1 free.1 names.1.1 names.1.2 found'
    have isFile : world.files.isFile artifact.source = true :=
      FileSystem.isFile_eq_true.mpr ⟨location, _, _, found', rfl⟩
    rw [perform_stageEach_cons]
    rcases stage_spec staged plain.1 free.1 with
      ⟨error, members', files', ending, -⟩ |
      ⟨folder', copy, files', ending, samePath, copying, more⟩
    · rw [perform_stage, if_pos isFile, copied] at ending
      cases ending
    · rw [ending]
      rw [← samePath] at more
      refine @ih { world with files := files' } folder' (copy :: members) more plain.2 ?_ nodup.2
        sources.2 fun other inside => samePath ▸ names.2 other inside
      intro other inside
      rw [List.map_cons, List.mem_cons, not_or, copying.1]
      exact ⟨fun same => nodup.1 (List.mem_map.mpr ⟨other, inside, same⟩), free.2 other inside⟩

/-- The folder lists the names of all files that were staged, in order. -/
theorem staged_of_stageEach
    (performed : (folder.stageEach artifacts).perform world = (.ok folder', finish)) :
    folder' = { folder with staged := folder.staged ++ artifacts.map Artifact.fileName } := by
  induction artifacts generalizing folder world with
  | nil =>
    cases performed
    rw [List.map_nil, List.append_nil]
  | cons artifact rest ih =>
    rw [perform_stageEach_cons] at performed
    split at performed
    next folder middle step =>
      rw [ih performed, staged_of_stage step, List.map_cons, List.append_assoc,
        List.singleton_append]
    · cases performed

/-- Files that can be staged may come before others. -/
theorem perform_stageEach_append (rest : List Artifact)
    (performed : (folder.stageEach artifacts).perform world = (.ok folder', middle)) :
    (folder.stageEach (artifacts ++ rest)).perform world =
      (folder'.stageEach rest).perform middle := by
  induction artifacts generalizing folder world with
  | nil =>
    cases performed
    rfl
  | cons artifact others ih =>
    rw [perform_stageEach_cons] at performed
    rw [List.cons_append, perform_stageEach_cons]
    split at performed
    · exact ih performed
    · cases performed

end StagingFolder
end ReleasePacker
