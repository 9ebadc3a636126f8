import ReleasePacker.Proofs.Staging.Copying
import ReleasePacker.Proofs.Staging.Session

/-!
# All files are staged, or nothing has changed

Whether a release can be staged depends on its sources only, and on them as they were before: the
copies do not stand in their way. The first source that is no regular file is the one that is
reported, and then the copies made so far are removed with the folder.
-/

namespace ReleasePacker

/-- A file that is missing undoes the copies before it. -/
theorem StagingFolder.perform_stageEach_missing {σ : Type} {world : World σ} {start : FileSystem}
    {place : Location} {folder : StagingFolder} {members : List Tar.Member}
    {before : List Artifact} (staged : Staged start folder.path place members world.files)
    (plain : ∀ artifact ∈ before, Path.IsName artifact.fileName)
    (free : ∀ artifact ∈ before, artifact.fileName ∉ members.map Tar.Member.name)
    (nodup : (before.map Artifact.fileName).Nodup)
    (sources : ∀ artifact ∈ before, ∃ location mode content,
      start.find artifact.source = .ok (location, .file mode content))
    (names : ∀ artifact ∈ before,
      FileSystem.checkPath (folder.path / artifact.fileName) = .ok () ∧
        (Utf8.encode artifact.fileName).length ≤ FileSystem.maxNameBytes)
    {missing : Artifact} (absent : ∀ members files,
      Staged start folder.path place members files → files.isFile missing.source = false)
    (after : List Artifact) :
    ∃ files, (folder.stageEach (before ++ missing :: after)).perform world =
        (.error (.missingArtifact missing.source), { world with files }) ∧
      start.SameEntries files := by
  obtain ⟨folder', middle, copying⟩ := exists_stageEach staged plain free nodup sources names
  rcases stageEach_spec staged plain free nodup with
    ⟨error, files, ending, -⟩ | ⟨folder'', copies, files, ending, samePath, -, copied⟩
  · cases copying.symm.trans ending
  cases copying.symm.trans ending
  -- The copies do not make a file of what was none.
  have refused : ({ world with files } : World σ).files.isFile missing.source ≠ true := by
    rw [absent _ _ copied]
    exact nofun
  rw [perform_stageEach_append _ copying, perform_stageEach_cons, perform_stage, if_neg refused]
  dsimp only
  -- The folder that was given to the step that fails still has all copies in it.
  rw [← samePath] at copied
  rw [perform_discard, copied.removeTree]
  exact ⟨_, rfl, (FileSystem.workingDirectory_erase place).trans copied.workingDirectory,
    copied.entryAt_erase⟩

/-- Where the name of the staging folder is mentioned nowhere, the folder makes no difference to
where the sources lead to files. -/
theorem Staged.find_source_iff {start files : FileSystem} {path : Path} {front : Location}
    {name : String} {members : List Tar.Member}
    (staged : Staged start path (front ++ [name]) members files) {sources : List Path}
    (unmentioned : start.mentions sources name = false) {source : Path} (inside : source ∈ sources)
    {location : Location} {node : Node} (leaf : node.entry ≠ .folder) :
    files.find source = .ok (location, node) ↔ start.find source = .ok (location, node) := by
  obtain ⟨inPaths, inLinks, inDirectory⟩ := FileSystem.of_mentions_eq_false unmentioned
  exact staged.find_iff (inPaths source inside) inLinks inDirectory leaf

theorem Staged.isFile_eq {start files : FileSystem} {path : Path} {front : Location} {name : String}
    {members : List Tar.Member} (staged : Staged start path (front ++ [name]) members files)
    {sources : List Path} (unmentioned : start.mentions sources name = false) {source : Path}
    (inside : source ∈ sources) : files.isFile source = start.isFile source := by
  rw [Bool.eq_iff_iff, FileSystem.isFile_eq_true, FileSystem.isFile_eq_true]
  refine exists_congr fun location => exists_congr fun node => exists_congr fun opened =>
    and_congr_left fun regular => ?_
  exact staged.find_source_iff unmentioned inside (node.leaf_of_reading regular)

/-- A fresh folder, whose name is mentioned nowhere, has room for copies of all files of a set. -/
structure ArtifactSet.Fits (set : ArtifactSet) (start : FileSystem) (path : Path)
    (created : FileSystem) (front : Location) (name : String) : Prop where
  named : set.WellNamed
  fresh : Staged start path (front ++ [name]) [] created
  unmentioned : start.mentions (set.entries.map Artifact.source) name = false
  sources : ∀ artifact ∈ set.entries, start.isFile artifact.source = true →
    ∃ location mode content, start.find artifact.source = .ok (location, .file mode content)
  names : ∀ artifact ∈ set.entries, start.isFile artifact.source = true →
    FileSystem.checkPath (path / artifact.fileName) = .ok () ∧
      (Utf8.encode artifact.fileName).length ≤ FileSystem.maxNameBytes

namespace ArtifactSet.Fits

variable {σ : Type} {set : ArtifactSet} {world : World σ} {path : Path} {created : FileSystem}
  {front : Location} {name : String}

theorem stageEach_whole (fits : set.Fits world.files path created front name)
    (files : ∀ artifact ∈ set.entries, world.files.isFile artifact.source = true) :
    ∃ folder finish, (StagingFolder.stageEach ⟨path, []⟩ set.entries).perform
      { world with files := created } = (.ok folder, finish) :=
  StagingFolder.exists_stageEach fits.fresh fits.named.isName (fun _ _ => List.not_mem_nil)
    fits.named.nodup
    (fun artifact inside => fits.sources artifact inside (files artifact inside))
    fun artifact inside => fits.names artifact inside (files artifact inside)

theorem stageEach_undone (fits : set.Fits world.files path created front name)
    {before after : List Artifact} {missing : Artifact}
    (split : set.entries = before ++ missing :: after)
    (files : ∀ artifact ∈ before, world.files.isFile artifact.source = true)
    (absent : world.files.isFile missing.source = false) :
    ∃ files, (StagingFolder.stageEach ⟨path, []⟩ set.entries).perform
        { world with files := created } =
          (.error (.missingArtifact missing.source), { world with files }) ∧
      world.files.SameEntries files := by
  have earlier (artifact : Artifact) (inside : artifact ∈ before) : artifact ∈ set.entries := by
    rw [split]
    exact List.mem_append_left _ inside
  have source : missing.source ∈ set.entries.map Artifact.source := by
    rw [split]
    exact List.mem_map_of_mem (List.mem_append_right _ List.mem_cons_self)
  have nodup := fits.named.nodup
  rw [fileNames, split, List.map_append] at nodup
  rw [split]
  exact @StagingFolder.perform_stageEach_missing _ { world with files := created } _ _ ⟨path, []⟩
    [] before fits.fresh
    (fun artifact inside => fits.named.isName artifact (earlier artifact inside))
    (fun _ _ => List.not_mem_nil) (List.nodup_append.mp nodup).1
    (fun artifact inside =>
      fits.sources artifact (earlier artifact inside) (files artifact inside))
    (fun artifact inside =>
      fits.names artifact (earlier artifact inside) (files artifact inside))
    missing (fun _ _ staged => (staged.isFile_eq fits.unmentioned source).trans absent) after

/-- If all are staged, all were files: the first one that is missing would have been reported. -/
theorem isFile_of_stageEach (fits : set.Fits world.files path created front name)
    {folder : StagingFolder} {finish : World σ}
    (performed : (StagingFolder.stageEach ⟨path, []⟩ set.entries).perform
      { world with files := created } = (.ok folder, finish)) :
    ∀ artifact ∈ set.entries, world.files.isFile artifact.source = true := by
  cases first : set.entries.find? fun artifact => !world.files.isFile artifact.source with
  | none =>
    intro artifact inside
    simpa using List.find?_eq_none.mp first artifact inside
  | some missing =>
    obtain ⟨absent, before, after, split, files⟩ := List.find?_eq_some_iff_append.mp first
    obtain ⟨_, ending, -⟩ := fits.stageEach_undone split (by simpa using files)
      (by simpa using absent)
    cases performed.symm.trans ending

end ArtifactSet.Fits

/-- Staging succeeds just when all sources are regular files, and then it lists their names in
order. Otherwise it reports the first source that is none, and the files are as they were before.
The name of the staging folder is new, and copying a file into the empty folder does not fail. -/
theorem stageAll_whole_or_undone {σ : Type} (platform : Platform) {entries : List Artifact}
    {set : ArtifactSet} (valid : ArtifactSet.ofList entries = .ok set) (parent : Option Path)
    (world : World σ) {path : Path} {created : FileSystem}
    (made : world.files.makeTemporary platform.uniqueText FileSystem.makeFolder
      (parent.getD platform.temporaryFolder) stagingFront "" = .ok (path, created))
    (unmentioned : ∀ front name, created.locate path = .ok (front ++ [name]) →
      world.files.mentions (set.entries.map Artifact.source) name = false)
    (copying : ∀ artifact ∈ set.entries, world.files.isFile artifact.source = true →
      ∃ after, created.copyFile artifact.source (path / artifact.fileName) = (.ok (), after)) :
    ((∃ folder finish, (stageAll platform set parent).perform world = (.ok folder, finish)) ↔
      ∀ artifact ∈ set.entries, world.files.isFile artifact.source = true) ∧
    (∀ folder finish, (stageAll platform set parent).perform world = (.ok folder, finish) →
      folder.staged = set.fileNames) ∧
    ∀ before missing after, set.entries = before ++ missing :: after →
      (∀ artifact ∈ before, world.files.isFile artifact.source = true) →
      world.files.isFile missing.source = false →
      ∃ files, (stageAll platform set parent).perform world =
          (.error (.missingArtifact missing.source), { world with files }) ∧
        world.files.SameEntries files := by
  rcases StagingFolder.create_spec platform parent world with
    ⟨error, failed⟩ | ⟨path, created, place, creation, made', fresh⟩
  · rw [StagingFolder.perform_create, made] at failed
    cases failed
  cases made.symm.trans made'
  obtain ⟨front, name, rfl⟩ := (List.eq_nil_or_concat' place).resolve_left fresh.proper
  have named := ArtifactSet.wellNamed_of_ofList valid
  have unmentioned := unmentioned front name (fresh.leads true)
  have fits : set.Fits world.files path created front name := by
    refine ⟨named, fresh, unmentioned, fun artifact inside file => ?_,
      fun artifact inside file => ?_⟩
    · obtain ⟨after, copied⟩ := copying artifact inside file
      obtain ⟨⟨location, mode, content, found⟩, -⟩ :=
        fresh.ready_of_copyFile (named.isName artifact inside) List.not_mem_nil copied
      have leaf : (Node.file mode content).entry ≠ .folder := nofun
      exact ⟨location, mode, content,
        (fresh.find_source_iff unmentioned (List.mem_map_of_mem inside) leaf).mp found⟩
    -- A name that a copy can have in the empty folder it can have there later on.
    · obtain ⟨after, copied⟩ := copying artifact inside file
      exact (fresh.ready_of_copyFile (named.isName artifact inside) List.not_mem_nil copied).2
  rw [stageAll, Task.perform_bind_of_ok creation]
  refine ⟨⟨?_, fits.stageEach_whole⟩, fun folder finish performed => ?_,
    fun before missing after => fits.stageEach_undone⟩
  · rintro ⟨folder, finish, performed⟩
    exact fits.isFile_of_stageEach performed
  · rw [StagingFolder.staged_of_stageEach performed]
    rfl

/-- Files of which the second one is missing. -/
def gappedSet : ArtifactSet where
  entries := [⟨.license, ⟨"/p/link"⟩⟩, ⟨.config, ⟨"/p/gone"⟩⟩, ⟨.readme, ⟨"/p/file"⟩⟩]

/-- The copy of the first file is undone when the second one is missing. -/
theorem stageAll_whole_or_undone_gapped :
    ArtifactSet.ofList gappedSet.entries = .ok gappedSet ∧
    (linkedWorld [] [1]).files.isFile ⟨"/p/link"⟩ = true ∧
    (linkedWorld [] [1]).files.isFile ⟨"/p/gone"⟩ = false ∧
    ∃ files, (stageAll sessionPlatform gappedSet none).perform (linkedWorld [] [1]) =
        (.error (.missingArtifact ⟨"/p/gone"⟩), { linkedWorld [] [1] with files }) ∧
      (linkedWorld [] [1]).files.SameEntries files := by
  have valid : ArtifactSet.ofList gappedSet.entries = .ok gappedSet := by decide
  have made : (linkedWorld [] [1]).files.makeTemporary sessionPlatform.uniqueText
      FileSystem.makeFolder (Option.getD none sessionPlatform.temporaryFolder) stagingFront "" =
        .ok (stagingPath, (stagingWorld [] [1]).files) := rfl
  have unmentioned (front : Location) (name : String)
      (located : (stagingWorld [] [1]).files.locate stagingPath = .ok (front ++ [name])) :
      (linkedWorld [] [1]).files.mentions (gappedSet.entries.map Artifact.source) name = false := by
    have there : (stagingWorld [] [1]).files.locate stagingPath =
        .ok (["tmp"] ++ ["kak-lsp-release-a1B2c3"]) := rfl
    obtain ⟨-, same⟩ := List.append_inj' (Except.ok.inj (there.symm.trans located)) rfl
    cases same
    decide
  have link : (linkedWorld [] [1]).files.isFile ⟨"/p/link"⟩ = true := rfl
  have gone : (linkedWorld [] [1]).files.isFile ⟨"/p/gone"⟩ = false := rfl
  have copying (artifact : Artifact) (inside : artifact ∈ gappedSet.entries)
      (file : (linkedWorld [] [1]).files.isFile artifact.source = true) :
      ∃ after, (stagingWorld [] [1]).files.copyFile artifact.source
        (stagingPath / artifact.fileName) = (.ok (), after) := by
    rcases List.mem_cons.mp inside with rfl | inside
    · exact ⟨_, rfl⟩
    rcases List.mem_cons.mp inside with rfl | inside
    · cases gone.symm.trans file
    obtain rfl := List.mem_singleton.mp inside
    exact ⟨_, rfl⟩
  obtain ⟨-, -, undone⟩ := stageAll_whole_or_undone sessionPlatform valid none (linkedWorld [] [1])
    made unmentioned copying
  exact ⟨valid, link, gone, undone [⟨.license, ⟨"/p/link"⟩⟩] ⟨.config, ⟨"/p/gone"⟩⟩
    [⟨.readme, ⟨"/p/file"⟩⟩] rfl (List.forall_mem_singleton.mpr link) gone⟩

end ReleasePacker
