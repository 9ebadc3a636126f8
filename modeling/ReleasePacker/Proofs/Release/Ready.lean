import ReleasePacker.Proofs.Archive
import ReleasePacker.Proofs.FileSystem.TemporaryNames
import ReleasePacker.Proofs.Release.Delivery
import ReleasePacker.Proofs.Staging.Copying

/-!
# When staging and packing succeed

Once a plan is made and the project is built, it depends only on the files whether the release gets
done. Where all sources can be read, where there is room for a staging folder and for an unfinished
archive, and where an archive of that name is already in its place, nothing can fail, and nothing
but that archive is another one afterwards.
-/

namespace ReleasePacker

/-! ## The output folder -/

namespace FileSystem

theorem ancestors_eq (path : Path) : ancestors path = [] ∨
    ∃ outer, ancestors path = path :: outer := by
  rw [ancestors]
  cases parts : path.components with
  | nil => exact .inl rfl
  | cons first rest =>
    dsimp only
    rw [List.length_cons, List.range_succ_eq_map, List.filterMap_cons]
    by_cases top : first :: rest = [.root]
    · cases top
      exact .inl rfl
    · rw [if_neg (by simpa using top), if_pos rfl]
      exact .inr ⟨_, rfl⟩

/-- A folder that is there need not be made. -/
theorem makeFolders_of_enters {files : FileSystem} {path : Path} {folder : Location}
    (enters : files.EntersFolder path folder)
    (accepted : path.text.toList = [] ∨ checkPath path = .ok ()) :
    files.makeFolders path = (.ok (), files) := by
  rw [makeFolders]
  rcases ancestors_eq path with none | ⟨outer, some⟩
  · rw [none, makeChain]
  have nonempty : path.text.toList ≠ [] := by
    intro empty
    obtain rfl : path = ⟨""⟩ := congrArg Path.mk (String.toList_eq_nil_iff.mp empty)
    cases some
  have leads := locate_eq_ok.mp (enters.locate (accepted.resolve_left nonempty))
  have isFolder : files.isFolder path = true := isFolder_eq_true.mpr ⟨folder, leads, enters.1⟩
  obtain ⟨location, there⟩ := exists_followName_of_follow leads
  have taken : files.makeFolder path = .error .entryExists := by
    rw [makeFolder, there]
  rw [some, makeChain, taken]
  dsimp only
  rw [if_neg (by decide), if_pos isFolder]

end FileSystem

/-! ## Packing -/

section

variable {platform : Platform} {files created : FileSystem} {folder outputDir target : Path}
  {names : List String}

/-- An operation can be done with all of a list if it can be done with each. -/
theorem exists_mapM_eq_ok {ε α β : Type} {operation : α → Except ε β} {list : List α} :
    (∃ results, list.mapM operation = .ok results) ↔
      ∀ a ∈ list, ∃ result, operation a = .ok result := by
  induction list with
  | nil => exact ⟨fun _ => List.forall_mem_nil _, fun _ => ⟨[], rfl⟩⟩
  | cons a rest ih =>
    rw [List.forall_mem_cons, ← ih, List.mapM_cons]
    constructor
    · rintro ⟨results, whole⟩
      rcases first : operation a with error | result
      · rw [first] at whole
        cases whole
      rcases others : rest.mapM operation with error | more
      · rw [first, others] at whole
        cases whole
      exact ⟨⟨result, rfl⟩, more, rfl⟩
    · rintro ⟨⟨result, first⟩, more, others⟩
      rw [first, others]
      exact ⟨result :: more, rfl⟩

theorem exists_memberOf_eq_ok {name : String} :
    (∃ member, memberOf files folder name = .ok member) ↔
      ∃ location mode content, files.find (folder / name) = .ok (location, .file mode content) := by
  unfold memberOf
  rcases files.find (folder / name) with
    error | ⟨location, (⟨mode, content⟩ | target | children)⟩ <;> simp

/-- An archive can be put together if all its files can be read. -/
theorem exists_archiveBytes : (∃ bytes, archiveBytes files folder names = .ok bytes) ↔
    ∀ name ∈ names, ∃ location mode content,
      files.find (folder / name) = .ok (location, .file mode content) := by
  have each : (∃ bytes, archiveBytes files folder names = .ok bytes) ↔
      ∃ members, names.mapM (memberOf files folder) = .ok members := by
    rw [archiveBytes]
    rcases names.mapM (memberOf files folder) with error | members
    · constructor <;> rintro ⟨_, same⟩ <;> cases same
    · exact ⟨fun _ => ⟨members, rfl⟩, fun _ => ⟨_, rfl⟩⟩
  rw [each, exists_mapM_eq_ok]
  exact forall₂_congr fun _ _ => exists_memberOf_eq_ok

variable {unfinished : Path} {bytes old : Bytes} {mode : Nat} {front : Location} {last : String}

/-- A staged file is found under its name, also when the archive is open. -/
theorem Staged.find_of_opened {start : FileSystem} {place openFolder : Location} {openName : String}
    {members : List Tar.Member} {member : Tar.Member}
    (staged : Staged start folder place members files)
    (nodup : (members.map Tar.Member.name).Nodup)
    (opened : Opened files unfinished openFolder openName created) (inside : member ∈ members)
    (plain : Path.IsName member.name)
    (accepted : FileSystem.checkPath (folder / member.name) = .ok ())
    (short : (Utf8.encode member.name).length ≤ FileSystem.maxNameBytes) :
    created.find (folder / member.name) =
      .ok (place ++ [member.name], .file member.mode member.content) := by
  have there : files.entryAt (place ++ [member.name]) =
      some (.file member.mode member.content) := by
    rw [← FileSystem.get?_eq_file, staged.lookup, lookup_node_of_mem nodup inside]
  have leads : files.follow (folder / member.name) true = .ok (.found (place ++ [member.name])) :=
    staged.enters.follow_found plain accepted short there nofun
  have kept {l : Location} (held : files.entryAt l ≠ none) :
      created.entryAt l = files.entryAt l := opened.entryAt_eq (.refl [] files) held
  refine FileSystem.find_eq_ok.mpr ⟨FileSystem.follow_of_kept leads opened.replaced.workingDirectory
    fun _ held => .of_eq (kept held).symm, FileSystem.get?_eq_file.mpr ?_⟩
  rw [kept (by rw [there]; exact nofun), there]

/-- An archive takes the place of an older one. -/
theorem exists_writeArchive
    (opening : files.makeTemporary platform.uniqueText
      (fun files path => files.createNew path temporaryMode) outputDir partialFront partialEnding =
        .ok (unfinished, created))
    (archived : archiveBytes created folder names = .ok bytes)
    (found : files.find target false = .ok (front ++ [last], .file mode old)) :
    ∃ after, writeArchive platform folder names outputDir target files = (.ok (), after) := by
  obtain ⟨openFolder, openName, opened⟩ := opened_of_makeTemporary opening
  obtain ⟨leads, held⟩ := FileSystem.find_eq_ok.mp found
  have there := FileSystem.get?_eq_file.mp held
  have different : front ++ [last] ≠ openFolder ++ [openName] := by
    intro same
    rw [same, opened.nothing] at there
    cases there
  have written := opened.replaced.replace temporaryMode bytes
  have leads' := FileSystem.follow_of_kept leads written.workingDirectory fun l exists' =>
    written.sameShape fun same => exists' (same ▸ opened.nothing)
  have held' := there
  rw [← written.elsewhere _ different, ← FileSystem.get?_eq_file] at held'
  have open' : (created.replace (openFolder ++ [openName]) (.file temporaryMode bytes)).find
      unfinished false = .ok (openFolder ++ [openName], .file temporaryMode bytes) :=
    FileSystem.find_eq_ok.mpr ⟨FileSystem.follow_of_kept (opened.leads false) rfl
      fun l _ => FileSystem.sameShape_replace opened.held temporaryMode bytes l,
      FileSystem.get?_eq_file.mpr written.placed⟩
  -- The unfinished archive and the older one are two files, so one can take the place of the other.
  obtain ⟨after, renamed⟩ : ∃ after, (created.replace (openFolder ++ [openName])
      (.file temporaryMode bytes)).rename unfinished target = .ok after :=
    ⟨_, FileSystem.rename_eq_ok.mpr ⟨_, _, open',
      .inr (.inr ⟨front, last, _, different, leads', held', nofun, rfl⟩)⟩⟩
  have finished : (do
      let bytes ← archiveBytes created folder names
      let written ← created.writeFile unfinished bytes
      written.rename unfinished target : Except IoError FileSystem) = .ok after := by
    rw [archived]
    change (created.writeFile unfinished bytes >>= fun written =>
      written.rename unfinished target) = _
    rw [opened.writeFile]
    exact renamed
  refine ⟨after, ?_⟩
  unfold writeArchive
  rw [opening]
  dsimp only
  rw [finished]

/-- Packing replaces an older archive and reads the new one back. -/
theorem exists_packFiles {init : List FileSystem.Step} {final : String}
    (ends : FileSystem.steps target = init ++ [.enter final])
    (finalName : ¬ partialEnding.toList <:+ final.toList)
    (listed : topLevelFiles platform files folder = .ok names)
    (making : files.makeFolders outputDir = (.ok (), files))
    (opening : files.makeTemporary platform.uniqueText
      (fun files path => files.createNew path temporaryMode) outputDir partialFront partialEnding =
        .ok (unfinished, created))
    (archived : archiveBytes created folder names = .ok bytes) {place : Location}
    (found : files.find target false = .ok (place, .file mode old)) :
    ∃ sha256 content after,
      packFiles platform folder outputDir target files = (.ok (names, sha256), after) ∧
        Replaced files place temporaryMode content after := by
  obtain ⟨leads, held⟩ := FileSystem.find_eq_ok.mp found
  have there := FileSystem.get?_eq_file.mp held
  obtain ⟨front, rfl⟩ := FileSystem.Addresses.last_name (.inl leads) ends
  obtain ⟨after, writing⟩ := exists_writeArchive opening archived found
  have moves : FileSystem.steps target ≠ [] := by
    rw [ends]
    simp
  rcases writeArchive_spec platform folder names outputDir ends finalName files with
    ⟨error, after', failing, -⟩ | ⟨unfinished', openFolder, openName, created', content, place,
      after', writing', opened, archived', addresses, replaced⟩
  · cases writing.symm.trans failing
  cases writing.symm.trans writing'
  obtain rfl : place = front ++ [final] := by
    rcases addresses with leads' | ⟨_, _, free, -⟩
    · cases leads.symm.trans leads'
      rfl
    · cases leads.symm.trans free
  rcases replaced.find addresses moves with back | ⟨-, link, linked⟩
  · refine ⟨Sha256.ofContent content, content, after, ?_, replaced⟩
    have read : after.contentOf target = .ok content := by rw [FileSystem.contentOf, back]
    unfold packFiles
    simp only [listed, making, writing, read]
  · cases there.symm.trans linked

end

/-- There is room in a folder for something with a temporary name. -/
def FileSystem.HasRoom (files : FileSystem) (uniqueText : Nat → String) (base : Path)
    (front ending : String) : Prop :=
  ∃ folder, files.Tries uniqueText base front ending folder ∧ ∃ attempt < maxAttempts,
    files.entryAt (folder ++ [front ++ uniqueText attempt ++ ending]) = none

/-! ## The second half of a run -/

namespace ReleaseRun

variable {σ : Type}

/-- Where the staging folder of a run goes. -/
def stagingParent (run : ReleaseRun σ) : Path :=
  run.config.stagingParent.getD run.platform.temporaryFolder

/-- The files are such that staging and packing for a plan succeed, and there is an archive in its
place already. -/
structure Ready (run : ReleaseRun σ) (plan : ReleasePlan) (files : FileSystem) (place : Location) :
    Prop where
  named : plan.artifacts.WellNamed
  sources : ∀ artifact ∈ plan.artifacts.entries, ∃ location mode content,
    files.find artifact.source = .ok (location, .file mode content)
  staging : files.HasRoom run.platform.uniqueText run.stagingParent stagingFront ""
  copies : ∀ attempt, ∀ artifact ∈ plan.artifacts.entries,
    FileSystem.checkPath (files.temporaryBase run.stagingParent /
      (stagingFront ++ run.platform.uniqueText attempt ++ "") / artifact.fileName) = .ok () ∧
    (Utf8.encode artifact.fileName).length ≤ FileSystem.maxNameBytes
  output : ∃ folder, files.EntersFolder run.config.outputDir folder
  accepted : run.config.outputDir.text.toList = [] ∨
    FileSystem.checkPath run.config.outputDir = .ok ()
  packing : files.HasRoom run.platform.uniqueText run.config.outputDir partialFront partialEnding
  archived : ∃ mode content,
    files.find (run.archivePath plan) false = .ok (place, .file mode content)

namespace Ready

variable {run : ReleaseRun σ} {plan : ReleasePlan} {world : World σ} {files : FileSystem}
  {place : Location}

/-- The files are staged, in a folder with a temporary name. -/
theorem exists_staging (ready : run.Ready plan world.files place) :
    ∃ folder full front attempt members, run.staging plan world = (.ok folder, full) ∧
      folder.path = world.files.temporaryBase run.stagingParent /
        (stagingFront ++ run.platform.uniqueText attempt ++ "") ∧
      Staged world.files folder.path
        (front ++ [stagingFront ++ run.platform.uniqueText attempt ++ ""]) members full.files ∧
      (members.map Tar.Member.name).Perm plan.artifacts.fileNames := by
  obtain ⟨front, tries, free⟩ := ready.staging
  obtain ⟨attempt, nothing, making⟩ :=
    tries.exists_makeTemporary FileSystem.makesNew_makeFolder free
  have told := run.files_afterProgress
    ("Staging " ++ toString plan.artifacts.entries.length ++ " files...") world
  unfold ReleaseRun.staging
  generalize run.afterProgress
    ("Staging " ++ toString plan.artifacts.entries.length ++ " files...") world = begun at told
  rw [← told] at making
  have filled : ∃ folder full,
      (stageAll run.platform plan.artifacts run.config.stagingParent).perform begun =
        (.ok folder, full) := by
    rcases StagingFolder.create_spec run.platform run.config.stagingParent begun with
      ⟨error, ending⟩ | ⟨path, created, there, ending, made, fresh⟩
    · rw [StagingFolder.perform_create, ← stagingParent, making] at ending
      cases ending
    · rw [← stagingParent, making] at made
      cases made
      rw [stageAll, Task.perform_bind_of_ok ending]
      refine StagingFolder.exists_stageEach fresh ready.named.isName (by simp) ready.named.nodup
        ?_ ?_ <;> rw [told]
      · exact ready.sources
      · exact ready.copies attempt
  obtain ⟨folder, full, filled⟩ := filled
  rcases stageAll_spec run.platform ready.named run.config.stagingParent begun with
    ⟨error, files, ending, -⟩ |
      ⟨folder', created, there, copies, files, ending, made, fresh, copied, holds⟩
  · cases filled.symm.trans ending
  · cases filled.symm.trans ending
    rw [← stagingParent, making, Except.ok.injEq, Prod.mk.injEq] at made
    obtain ⟨path, rfl⟩ := made
    rw [told] at path fresh holds
    refine ⟨folder, _, front, attempt, copies.reverse, filled, path.symm, ?_, ?_⟩
    -- The folder is in the place that was free before.
    · have leads := tries.follow attempt
      rw [if_pos nothing, path] at leads
      have reached : (world.files.put front (stagingFront ++ run.platform.uniqueText attempt ++ "")
          (.folder [])).follow folder.path true = _ :=
        FileSystem.follow_put leads (fun _ same => by cases same) (fun same => by cases same)
          fun same => by cases same
      cases (FileSystem.locate_eq_ok.mp (fresh.leads true)).symm.trans reached
      exact holds
    · rw [List.map_reverse, Copied.names_eq copied]
      exact List.reverse_perm _

/-- No name of an unfinished archive is one of a staging folder. -/
theorem partial_ne_staging (unique unique' : String) :
    partialFront ++ unique ++ partialEnding ≠ stagingFront ++ unique' ++ "" := by
  intro same
  have first := congrArg (fun text => text.toList.head?) same
  simp [partialFront, stagingFront] at first

section

variable {folder : StagingFolder} {front : Location} {attempt : Nat} {members : List Tar.Member}
  {full : FileSystem} (ready : run.Ready plan files place)
  (staged : Staged files folder.path
    (front ++ [stagingFront ++ run.platform.uniqueText attempt ++ ""]) members full)
include ready staged

/-- An unfinished archive can be begun when the files are staged. -/
theorem exists_opening : ∃ unfinished created, full.makeTemporary run.platform.uniqueText
    (fun files path => files.createNew path temporaryMode) run.config.outputDir partialFront
      partialEnding = .ok (unfinished, created) := by
  obtain ⟨room, tries, next, few, nothing⟩ := ready.packing
  -- A name that was free still is, as the staging folder has another.
  have free : full.entryAt (room ++ [partialFront ++ run.platform.uniqueText next ++
      partialEnding]) = none := by
    rw [staged.outside _ fun below => ?_, nothing]
    rcases List.prefix_concat_iff.mp below with same | inside
    · exact partial_ne_staging _ _ (List.cons.inj (List.append_inj' same rfl).2).1.symm
    · exact absurd (tries.enters.1.symm.trans
        (FileSystem.entryAt_eq_none_of_below staged.fresh inside)) nofun
  obtain ⟨_, -, opening⟩ := (tries.of_kept staged.workingDirectory fun _ there =>
    .of_eq (staged.kept there).symm).exists_makeTemporary
      (FileSystem.makesNew_createNew temporaryMode) ⟨next, few, free⟩
  exact ⟨_, _, opening⟩

/-- What is staged is packed, in place of the archive that is there. -/
theorem exists_packing
    (path : folder.path = files.temporaryBase run.stagingParent /
      (stagingFront ++ run.platform.uniqueText attempt ++ ""))
    (names : (members.map Tar.Member.name).Perm plan.artifacts.fileNames) :
    ∃ listed sha256 content after, run.packing plan folder full = (.ok (listed, sha256), after) ∧
      listed.Perm plan.artifacts.fileNames ∧ Replaced full place temporaryMode content after := by
  have distinct := names.nodup_iff.mpr ready.named.nodup
  obtain ⟨output, enters⟩ := ready.output
  have making := FileSystem.makeFolders_of_enters (enters.of_kept staged.workingDirectory
    fun _ there => .of_eq (staged.kept there).symm) ready.accepted
  obtain ⟨unfinished, created, opening⟩ := ready.exists_opening staged
  obtain ⟨openFolder, openName, opened⟩ := opened_of_makeTemporary opening
  have listing := run.platform.listingOrder_perm (members.map Tar.Member.name)
  have readable : ∀ name ∈ run.platform.listingOrder (members.map Tar.Member.name),
      ∃ location mode content, created.find (folder.path / name) =
        .ok (location, .file mode content) := by
    intro name inside
    obtain ⟨member, among, rfl⟩ := List.mem_map.mp (listing.mem_iff.mp inside)
    obtain ⟨artifact, planned, same⟩ :=
      List.mem_map.mp (names.mem_iff.mp (List.mem_map_of_mem among))
    obtain ⟨accepted, short⟩ := ready.copies attempt artifact planned
    have plain := ready.named.isName artifact planned
    rw [← path] at accepted
    rw [same] at accepted short plain
    exact ⟨_, _, _, staged.find_of_opened distinct opened among plain accepted short⟩
  obtain ⟨bytes, archived⟩ := exists_archiveBytes.mpr readable
  obtain ⟨mode, content, found⟩ := ready.archived
  obtain ⟨init, final, ends, finalName⟩ := exists_steps_archive run.config.outputDir plan.archive
  obtain ⟨sha256, content, after, packed, replaced⟩ := exists_packFiles ends finalName
    (staged.topLevelFiles_eq distinct run.platform) making opening archived
    (staged.find_of_start found nofun)
  exact ⟨_, sha256, content, after, packed, listing.trans names, replaced⟩

end

/-- The second half of a run succeeds, and nothing but the archive is another one afterwards. -/
theorem deliver (ready : run.Ready plan world.files place) :
    ∃ members sha256 finish, (run.deliver plan).perform world =
        (.ok (ReleaseReport.ofArchive plan ⟨run.archivePath plan, members, sha256⟩), finish) ∧
      members.Perm plan.artifacts.fileNames ∧
      finish.files.workingDirectory = world.files.workingDirectory ∧
      ∀ location, location ≠ place →
        finish.files.entryAt location = world.files.entryAt location := by
  obtain ⟨folder, full, front, attempt, members, filled, path, staged, names⟩ :=
    ready.exists_staging
  obtain ⟨listed, sha256, content, after, packed, permuted, replaced⟩ :=
    ready.exists_packing staged path names
  obtain ⟨mode, old, found⟩ := ready.archived
  have archive :=
    FileSystem.get?_eq_file.mp (FileSystem.find_eq_ok.mp (staged.find_of_start found nofun)).2
  have shapes (l : Location) : FileSystem.SameShape full.files after l := by
    by_cases same : l = place
    · rw [FileSystem.SameShape, same, archive, replaced.placed]
      rfl
    · exact replaced.sameShape same
  have leads := FileSystem.follow_of_kept (FileSystem.locate_eq_ok.mp (staged.leads false))
    replaced.workingDirectory fun l _ => shapes l
  obtain ⟨children, there⟩ := FileSystem.entryAt_eq_folder.mp
    ((shapes _).folder (FileSystem.entryAt_of_get? staged.folder))
  have removed := FileSystem.removeTree_eq_ok.mpr
    ⟨_, _, FileSystem.find_eq_ok.mpr ⟨leads, there⟩, rfl, rfl⟩
  have whole := run.deliver_eq plan world
  rw [filled] at whole
  dsimp only at whole
  rw [packed] at whole
  dsimp only at whole
  rw [removed] at whole
  obtain ⟨result, files⟩ := Prod.mk.inj whole
  refine ⟨listed, sha256, ((run.deliver plan).perform world).2, Prod.ext result rfl, permuted, ?_,
    fun location other => ?_⟩
  · rw [files]
    dsimp only
    rw [FileSystem.workingDirectory_erase, replaced.workingDirectory, staged.workingDirectory]
  · rw [files]
    dsimp only
    rw [FileSystem.entryAt_erase staged.proper]
    split
    next below => exact (FileSystem.entryAt_eq_none_of_below staged.fresh below).symm
    next outside => rw [replaced.elsewhere location other, staged.outside location outside]

end Ready
end ReleaseRun
end ReleasePacker
