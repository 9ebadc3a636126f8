import ReleasePacker.Proofs.Release.Answers
import ReleasePacker.Proofs.Release.Contents
import ReleasePacker.Proofs.Release.Ready

/-!
# Running a release again

A run that succeeds leaves an archive, and folders that were missing. A second run on what is left
comes to the same plan if it is answered alike, and the archive of the first run is in no way of the
second one, with one exception: where a symbolic link stood in its place and a path of the run goes
on from there, the path is broken now. That cannot be the path of the output folder, as the archive
was found in it, but it can be that of a file to be staged, of the lock file or of the staging
folder.
-/

namespace ReleasePacker

theorem temporaryFrame_staging : TemporaryFrame stagingFront "" :=
  ⟨by decide, by decide, ⟨'k', by decide, by decide⟩, by decide⟩

theorem temporaryFrame_partial : TemporaryFrame partialFront partialEnding :=
  ⟨by decide, by decide, ⟨'k', by decide, by decide⟩, by decide⟩

/-! ## What a success has found -/

/-- A staging folder was made in a folder to which the path of its parent leads. -/
theorem exists_entersFolder_of_makeTemporary {platform : Platform} {files created : FileSystem}
    {base path : Path} (six : ∀ attempt, IsUniqueText (platform.uniqueText attempt))
    (made : files.makeTemporary platform.uniqueText FileSystem.makeFolder base stagingFront "" =
      .ok (path, created)) :
    ∃ attempt folder,
      path = files.temporaryBase base / (stagingFront ++ platform.uniqueText attempt ++ "") ∧
      FileSystem.checkPath path = .ok () ∧
      files.EntersFolder (files.temporaryBase base) folder := by
  obtain ⟨attempt, rfl, making⟩ := FileSystem.makeTemporary_eq_ok made
  obtain ⟨outer, inner, trailing, free, -⟩ := FileSystem.free_of_makeFolder making
  obtain ⟨folder, enters⟩ := FileSystem.exists_entersFolder_of_name
    (temporaryFrame_staging.isName (six attempt)) free
  exact ⟨attempt, folder, rfl, (FileSystem.follow_eq_ok.mp free).1, enters⟩

/-- An archive that was written was begun under a temporary name, to which a path leads. -/
theorem exists_follow_of_packFiles {platform : Platform} {files after : FileSystem}
    {folder outputDir target : Path} {answer : List String × String}
    (packed : packFiles platform folder outputDir target files = (.ok answer, after)) :
    ∃ (made : FileSystem) (attempt : Nat) (destination : FileSystem.Destination),
      made.workingDirectory = files.workingDirectory ∧
      made.follow (made.temporaryBase outputDir /
          (partialFront ++ platform.uniqueText attempt ++ partialEnding)) false =
        .ok destination := by
  have folders := files.makeFolders_spec outputDir
  unfold packFiles at packed
  cases listed : topLevelFiles platform files folder with
  | error error =>
    rw [listed] at packed
    cases packed
  | ok names =>
    rw [listed] at packed
    rcases making : files.makeFolders outputDir with ⟨error | _, made⟩
    · rw [making] at packed
      cases packed
    · rw [making] at packed folders
      dsimp only at packed
      unfold writeArchive at packed
      rcases opening : made.makeTemporary platform.uniqueText
        (fun files path => files.createNew path temporaryMode) outputDir partialFront
          partialEnding with error | ⟨unfinished, created⟩
      · rw [opening] at packed
        cases packed
      · obtain ⟨attempt, rfl, creating⟩ := FileSystem.makeTemporary_eq_ok opening
        obtain ⟨outer, name, free, -⟩ := FileSystem.createNew_eq_ok.mp creating
        exact ⟨made, attempt, _, folders.workingDirectory, free⟩

/-- The names of files that were packed are names that the system accepts. -/
theorem checkPath_of_archiveBytes {files : FileSystem} {folder : Path} {names : List String}
    {bytes : Bytes} (archived : archiveBytes files folder names = .ok bytes) {name : String}
    (inside : name ∈ names) (plain : Path.IsName name) :
    FileSystem.checkPath (folder / name) = .ok () ∧
      (Utf8.encode name).length ≤ FileSystem.maxNameBytes := by
  obtain ⟨location, mode, content, found⟩ := exists_archiveBytes.mp ⟨bytes, archived⟩ name inside
  obtain ⟨leads, -⟩ := FileSystem.find_eq_ok.mp found
  exact ⟨(FileSystem.follow_eq_ok.mp leads).1, FileSystem.length_le_of_follow plain leads⟩

/-- All files that were copied were there when staging began. -/
theorem Copied.exists_find {start : FileSystem} {path : Path} {front : Location} {name : String}
    {artifacts : List Artifact} {copies : List Tar.Member}
    (copied : List.Forall₂ (Copied start path (front ++ [name])) artifacts copies)
    (unmentioned : ∀ artifact ∈ artifacts, .enter name ∉ FileSystem.steps artifact.source)
    (unlinked : ∀ location target, start.entryAt location = some (.link target) →
      .enter name ∉ FileSystem.steps target)
    (outside : name ∉ start.workingDirectory) :
    ∀ artifact ∈ artifacts, ∃ location mode content,
      start.find artifact.source = .ok (location, .file mode content) := by
  induction copied with
  | nil => simp
  | cons first others ih =>
    rw [List.forall_mem_cons] at unmentioned ⊢
    obtain ⟨location, found⟩ := first.find unmentioned.1 unlinked outside
    exact ⟨⟨location, _, _, found⟩, ih unmentioned.2⟩

/-- Of all that was there before files were staged, only what is in the place of the archive is
another thing after they are packed. -/
theorem Staged.overwritten {start files made after finish : FileSystem} {folder : Path}
    {place archive : Location} {members : List Tar.Member} {paths : List Path} {mode : Nat}
    {bytes : Bytes} (staged : Staged start folder place members files)
    (folders : FoldersMade paths files made) (replaced : Replaced made archive mode bytes after)
    (removal : finish = after.erase place ∨ finish = after)
    (placed : finish.entryAt archive = some (.file mode bytes)) :
    start.Overwritten archive finish := by
  have unchanged {l : Location} (there : start.entryAt l ≠ none) :
      made.entryAt l = start.entryAt l := by
    have same := staged.kept there
    rw [folders.kept (same ▸ there), same]
  refine ⟨?_, fun folder => ?_, ⟨mode, bytes, placed⟩, fun l there other => ?_⟩
  · have same := replaced.workingDirectory.trans
      (folders.workingDirectory.trans staged.workingDirectory)
    rcases removal with rfl | rfl
    · exact (FileSystem.workingDirectory_erase place).trans same
    · exact same
  · exact replaced.noFolder ((unchanged (by rw [folder]; exact nofun)).trans folder)
  · have same := (replaced.elsewhere l other).trans (unchanged there)
    rcases removal with rfl | rfl
    · rw [FileSystem.entryAt_erase staged.proper, if_neg fun below =>
        there (FileSystem.entryAt_eq_none_of_below staged.fresh below), same]
    · exact same

namespace ArchiveName

variable (archive : ArchiveName)

/-- The name of an archive is relative if the name of what is released is. -/
theorem isAbsolute_fileName (relative : (⟨archive.name⟩ : Path).isAbsolute = false) :
    (⟨archive.fileName⟩ : Path).isAbsolute = false := by
  rw [Path.isAbsolute, fileName] at *
  cases chars : archive.name.toList with
  | nil => simp [chars]
  | cons c rest => simpa [chars] using relative

theorem exists_steps_fileName :
    ∃ init name, FileSystem.steps ⟨archive.fileName⟩ = init ++ [.enter name] := by
  have text : (⟨archive.fileName⟩ : Path).text.toList =
      (archive.name ++ "-" ++ archive.version.text ++ "-" ++ archive.target.text).toList ++
        archiveExtension.toList := by
    rw [fileName, String.toList_append]
  obtain ⟨init, name, ends, -⟩ := FileSystem.exists_steps_eq_concat ⟨archive.fileName⟩ text
    (by decide) ⟨'t', by decide, by decide⟩
  exact ⟨init, name, ends⟩

end ArchiveName

namespace ReleaseRun

variable {σ τ : Type}

/-- What a run that succeeds has found when it began to stage files, and what it has left: nothing
that was there has changed but what is in the place of the archive now. -/
structure Delivered (run : ReleaseRun σ) (plan : ReleasePlan) (before after : FileSystem)
    (place : Location) : Prop where
  overwritten : before.Overwritten place after
  found : ∀ last, ∃ mode content,
    after.find (run.archivePath plan) last = .ok (place, .file mode content)
  sources : ∀ artifact ∈ plan.artifacts.entries, ∃ location mode content,
    before.find artifact.source = .ok (location, .file mode content)
  staging : ∃ folder, before.EntersFolder (before.temporaryBase run.stagingParent) folder
  copies : ∃ attempt, FileSystem.checkPath (before.temporaryBase run.stagingParent /
      (stagingFront ++ run.platform.uniqueText attempt ++ "")) = .ok () ∧
    ∀ artifact ∈ plan.artifacts.entries,
      FileSystem.checkPath (before.temporaryBase run.stagingParent /
        (stagingFront ++ run.platform.uniqueText attempt ++ "") / artifact.fileName) = .ok () ∧
      (Utf8.encode artifact.fileName).length ≤ FileSystem.maxNameBytes
  packing : ∃ (made : FileSystem) (attempt : Nat) (destination : FileSystem.Destination),
    made.workingDirectory = before.workingDirectory ∧
      made.follow (made.temporaryBase run.config.outputDir /
        (partialFront ++ run.platform.uniqueText attempt ++ partialEnding)) false = .ok destination

variable {run : ReleaseRun σ}

/-- A run that succeeds delivers what it has planned. -/
theorem exists_delivered {world start finish : World σ} {plan : ReleasePlan}
    {report : ReleaseReport} (apart : run.stagesApart world = true)
    (six : ∀ attempt, IsUniqueText (run.platform.uniqueText attempt))
    (prepared : run.prepare.perform world = (.ok plan, start))
    (delivering : (run.deliver plan).perform start = (.ok report, finish)) :
    ∃ place members sha256,
      report = ReleaseReport.ofArchive plan ⟨run.archivePath plan, members, sha256⟩ ∧
      members.Perm plan.artifacts.fileNames ∧
      run.Delivered plan start.files finish.files place := by
  have named := run.wellNamed_of_prepare prepared
  have delivered := run.deliver_spec named start
  rw [delivering] at delivered
  generalize ending : ((.ok report : Except ReleaseError ReleaseReport), finish.files) = outcome
    at delivered
  cases delivered with
  | unstaged error after same => cases ending
  | staged folder created place copies full ended after filled making fresh copied holds packs
      packing removal =>
    obtain ⟨answer, rfl⟩ := Prod.mk.inj ending
    have left : finish.files = ended.2.erase place ∨ finish.files = ended.2 :=
      removal.imp (fun removed => packing.eq_erase holds removed) And.left
    cases packing with
    | unwritten error made folders => cases answer
    | unreadable error made other link bytes after folders addresses there replaced unread =>
      cases answer
    | packed names made unfinished openFolder openName opening bytes archive after listed folders
        opened archived addresses replaced found =>
      cases answer
      -- The staging folder has a name, which is mentioned nowhere, so nothing depends on it.
      obtain ⟨front, name, rfl⟩ : ∃ front name, place = front ++ [name] :=
        ⟨_, _, (List.dropLast_append_getLast fresh.proper).symm⟩
      obtain ⟨inPaths, inLinks, inDirectory⟩ := FileSystem.of_mentions_eq_false
        (mentions_of_stagesApart apart prepared making (fresh.leads true))
      rw [List.forall_mem_cons] at inPaths
      have names := Copied.names_eq copied
      have distinct : (copies.reverse.map Tar.Member.name).Nodup := by
        rw [List.map_reverse, List.nodup_reverse, names]
        exact named.nodup
      rw [holds.topLevelFiles_eq distinct, Except.ok.injEq] at listed
      subst listed
      have members : (run.platform.listingOrder (copies.reverse.map Tar.Member.name)).Perm
          plan.artifacts.fileNames := by
        refine (run.platform.listingOrder_perm _).trans ((copies.reverse_perm.map _).trans ?_)
        rw [names]
        rfl
      have archived' (last : Bool) : finish.files.find (run.archivePath plan) last =
          .ok (archive, .file temporaryMode bytes) := by
        refine find_archive holds folders replaced ?_ inPaths.1 inLinks inDirectory left
        obtain ⟨leads, held⟩ := FileSystem.find_eq_ok.mp found
        cases last with
        | true => exact found
        | false => exact FileSystem.find_eq_ok.mpr ⟨replaced.follow_place addresses leads, held⟩
      have placed := FileSystem.get?_eq_file.mp (FileSystem.find_eq_ok.mp (archived' true)).2
      obtain ⟨attempt, parent, path, accepted, enters⟩ :=
        exists_entersFolder_of_makeTemporary six making
      rw [← stagingParent] at path enters
      obtain ⟨made', next, destination, directory, leads⟩ := exists_follow_of_packFiles packs
      refine ⟨archive, _, _, rfl, members, ?_⟩
      refine ⟨holds.overwritten folders replaced left placed, fun last => ⟨_, _, archived' last⟩,
        ?_, ⟨parent, enters⟩, ⟨attempt, path ▸ accepted, ?_⟩,
        ⟨made', next, destination, directory.trans holds.workingDirectory, leads⟩⟩
      · exact Copied.exists_find copied
          (fun artifact inside => inPaths.2 _ (List.mem_map.mpr ⟨artifact, inside, rfl⟩)) inLinks
          inDirectory
      · intro artifact planned
        have inside : artifact.fileName ∈
            run.platform.listingOrder (copies.reverse.map Tar.Member.name) :=
          members.mem_iff.mpr (List.mem_map_of_mem planned)
        rw [← path]
        exact checkPath_of_archiveBytes archived inside (named.isName artifact planned)

/-! ## What a second run finds -/

/-- A run of the same release on the same machine. Names of temporary files, the order of listings
and what is said about progress may be others. -/
structure Follows (second : ReleaseRun τ) (first : ReleaseRun σ) : Prop where
  config : second.config = first.config
  host : second.host = first.host
  temporaryFolder : second.platform.temporaryFolder = first.platform.temporaryFolder

/-- Some of the temporary names that a run tries are not taken. -/
def FindsNames (run : ReleaseRun σ) (files : FileSystem) : Prop :=
  (∃ attempt < FileSystem.maxAttempts, files.holds (files.temporaryBase run.stagingParent /
    (stagingFront ++ run.platform.uniqueText attempt ++ "")) = false) ∧
  ∃ attempt < FileSystem.maxAttempts, files.holds (files.temporaryBase run.config.outputDir /
    (partialFront ++ run.platform.uniqueText attempt ++ partialEnding)) = false

/-- The files that a run that has succeeded has staged. -/
def sources (run : ReleaseRun σ) (report : ReleaseReport) : List Path :=
  match planFor run.config report.target report.version with
  | .ok plan => plan.artifacts.entries.map Artifact.source
  | .error _ => []

theorem sources_of_planFor (report : ReleaseReport) {plan : ReleasePlan}
    (planned : planFor run.config report.target report.version = .ok plan) :
    run.sources report = plan.artifacts.entries.map Artifact.source := by
  unfold sources
  rw [planned]

/-- The other paths that a run follows before it packs: to the lock file, and to the folder in which
it stages files. -/
def surroundings (run : ReleaseRun σ) (files : FileSystem) : List Path :=
  [run.config.projectRoot / "Cargo.lock", files.temporaryBase run.stagingParent / ""]

namespace Delivered

variable {second : ReleaseRun τ} {plan : ReleasePlan} {before after : FileSystem} {place : Location}
  (delivered : run.Delivered plan before after place)
include delivered

theorem temporaryBase_eq (path : Path) :
    after.temporaryBase path = before.temporaryBase path := by
  rw [FileSystem.temporaryBase, FileSystem.temporaryBase, delivered.overwritten.workingDirectory]

/-- The output folder is where the archive was found, if its name leads nowhere else. -/
theorem exists_output (relative : (⟨plan.archive.name⟩ : Path).isAbsolute = false) :
    (∃ folder, after.EntersFolder run.config.outputDir folder) ∧
      (run.config.outputDir.text.toList = [] ∨
        FileSystem.checkPath run.config.outputDir = .ok ()) := by
  obtain ⟨mode, content, found⟩ := delivered.found false
  obtain ⟨leads, -⟩ := FileSystem.find_eq_ok.mp found
  have isRelative := plan.archive.isAbsolute_fileName relative
  obtain ⟨init, final, ends⟩ := plan.archive.exists_steps_fileName
  obtain ⟨folder, -, -, enters, -⟩ :=
    FileSystem.exists_entersFolder isRelative ⟨.enter final, by simp [ends], nofun⟩ leads
  exact ⟨⟨folder, enters⟩,
    FileSystem.checkPath_of_join isRelative (FileSystem.follow_eq_ok.mp leads).1⟩

section

variable {uniqueText : Nat → String}
  (six : ∀ attempt, IsUniqueText (run.platform.uniqueText attempt))
  (six' : ∀ attempt, IsUniqueText (uniqueText attempt))
include six six'

/-- Staging folders are still made where the first one was. -/
theorem exists_tries_staging
    (around : ∀ path ∈ run.surroundings before, place ∉ before.crossed path) :
    ∃ folder, after.Tries uniqueText run.stagingParent stagingFront "" folder := by
  obtain ⟨folder, enters⟩ := delivered.staging
  obtain ⟨attempt, accepted, -⟩ := delivered.copies
  refine ⟨folder, .of_accepted temporaryFrame_staging six' ?_ (six attempt) ?_⟩ <;>
    rw [delivered.temporaryBase_eq]
  · exact delivered.overwritten.entersFolder enters
      (around _ (List.mem_cons_of_mem _ (List.mem_singleton_self _)))
  · exact accepted

/-- Unfinished archives are still made in the output folder. -/
theorem exists_tries_packing (relative : (⟨plan.archive.name⟩ : Path).isAbsolute = false)
    (plain : ∀ name ∈ before.workingDirectory, Path.IsName name) :
    ∃ folder, after.Tries uniqueText run.config.outputDir partialFront partialEnding folder := by
  obtain ⟨⟨folder, enters⟩, -⟩ := delivered.exists_output relative
  obtain ⟨made, attempt, destination, directory, leads⟩ := delivered.packing
  have directory' := directory.trans delivered.overwritten.workingDirectory.symm
  have base : made.temporaryBase run.config.outputDir =
      after.temporaryBase run.config.outputDir := by
    rw [FileSystem.temporaryBase, FileSystem.temporaryBase, directory']
  have accepted := (FileSystem.follow_eq_ok.mp leads).1
  rw [base] at accepted
  -- The names of the working directory are short, as a name below it has been used.
  rw [← directory] at plain
  have short (inside : run.config.outputDir.isAbsolute = false) :=
    FileSystem.length_le_of_temporary plain inside (temporaryFrame_partial.isName (six attempt))
      leads
  rw [directory'] at plain short
  exact ⟨folder, .of_accepted temporaryFrame_partial six' (enters.temporaryBase plain short)
    (six attempt) accepted⟩

/-- Files can have their names in any staging folder. -/
theorem checkPath_copy (named : plan.artifacts.WellNamed) (attempt : Nat) {artifact : Artifact}
    (planned : artifact ∈ plan.artifacts.entries) :
    FileSystem.checkPath (after.temporaryBase run.stagingParent /
      (stagingFront ++ uniqueText attempt ++ "") / artifact.fileName) = .ok () ∧
    (Utf8.encode artifact.fileName).length ≤ FileSystem.maxNameBytes := by
  obtain ⟨first, -, copies⟩ := delivered.copies
  obtain ⟨accepted, short⟩ := copies artifact planned
  rw [delivered.temporaryBase_eq]
  exact ⟨temporaryFrame_staging.checkPath_join_join (six first)
    (named.isName artifact planned).noSeparator (six' attempt) accepted, short⟩

end

/-- All is ready for a second run, if no path of the first one goes on from where the archive is. -/
theorem ready (follows : second.Follows run) (named : plan.artifacts.WellNamed)
    (relative : (⟨plan.archive.name⟩ : Path).isAbsolute = false)
    (six : ∀ attempt, IsUniqueText (run.platform.uniqueText attempt))
    (six' : ∀ attempt, IsUniqueText (second.platform.uniqueText attempt))
    (plain : ∀ name ∈ before.workingDirectory, Path.IsName name) (free : second.FindsNames after)
    (aroundSources : ∀ artifact ∈ plan.artifacts.entries, place ∉ before.crossed artifact.source)
    (around : ∀ path ∈ run.surroundings before, place ∉ before.crossed path) :
    second.Ready plan after place := by
  have parent : second.stagingParent = run.stagingParent := by
    rw [stagingParent, stagingParent, follows.config, follows.temporaryFolder]
  obtain ⟨⟨attempt, few, nothing⟩, ⟨attempt', few', nothing'⟩⟩ := free
  rw [parent] at nothing
  rw [follows.config] at nothing'
  obtain ⟨folder, staging⟩ := delivered.exists_tries_staging six six' around
  obtain ⟨folder', packing⟩ := delivered.exists_tries_packing six six' relative plain
  obtain ⟨output, accepted⟩ := delivered.exists_output relative
  obtain ⟨mode, content, found⟩ := delivered.found false
  have sources : ∀ artifact ∈ plan.artifacts.entries, ∃ location mode content,
      after.find artifact.source = .ok (location, .file mode content) := by
    intro artifact planned
    obtain ⟨location, mode, content, found⟩ := delivered.sources artifact planned
    exact delivered.overwritten.exists_find found (aroundSources artifact planned)
  refine ⟨named, sources, ?_, ?_, ?_, ?_, ?_, ⟨mode, content, ?_⟩⟩
  · rw [parent]
    exact ⟨folder, staging, attempt, few, staging.entryAt_eq_none nothing⟩
  · intro next artifact planned
    rw [parent]
    exact delivered.checkPath_copy six six' named next planned
  · rw [follows.config]
    exact output
  · rw [follows.config]
    exact accepted
  · rw [follows.config]
    exact ⟨folder', packing, attempt', few', packing.entryAt_eq_none nothing'⟩
  · rw [archivePath, follows.config]
    exact found

end Delivered

/-! ## Two runs -/

/-- What is planned is planned for the target and the version that the archive is named for. -/
theorem planFor_of_prepare {world start : World σ} {plan : ReleasePlan}
    (prepared : run.prepare.perform world = (.ok plan, start)) :
    planFor run.config plan.archive.target plan.archive.version = .ok plan := by
  obtain ⟨made, middle, planned, building⟩ := Task.perform_bind_eq_ok.mp prepared
  obtain ⟨-, last, -, answer⟩ := Task.perform_bind_eq_ok.mp building
  rw [Task.perform_pure, Prod.mk.injEq] at answer
  cases answer.1
  obtain ⟨target, version, -, planned⟩ := exists_planFor_of_makePlan planned
  rw [(planFor_eq_ok planned).1]
  exact planned

/-- All that happens in the first half of a run has happened in the run. -/
theorem events_prepare_subset (run : ReleaseRun σ) (world : World σ) :
    (run.prepare.perform world).2.events ⊆ (run.execute.perform world).2.events := by
  rw [execute_eq]
  rcases ending : run.prepare.perform world with ⟨error | plan, start⟩
  · rw [Task.perform_bind_of_error ending]
    exact List.Subset.refl _
  · rw [Task.perform_bind_of_ok ending]
    obtain ⟨-, lines, events⟩ := onlyTells_deliver plan start
    rw [events]
    exact List.subset_append_left _ _

theorem keepsFiles_obliged (outputDir : Path) : (obliged outputDir).KeepsFiles :=
  ⟨fun _ _ _ => rfl, fun _ _ _ => rfl, fun _ _ => rfl⟩

theorem answersLike_obliged (outputDir : Path) :
    (obliged outputDir).AnswersLike (obliged outputDir) :=
  ⟨fun _ _ _ _ _ => rfl, fun _ _ _ _ _ => rfl, fun _ _ _ _ => rfl⟩

/-- A run of a release that follows one that has succeeded, on what that one has left, succeeds as
well if it is given the same answers. It reports the same release and the same members, and nothing
but the archive is another one afterwards. -/
theorem execute_again {first : ReleaseRun σ} {second : ReleaseRun τ}
    (follows : second.Follows first) (keeps : first.KeepsFiles) (keeps' : second.KeepsFiles)
    (six : ∀ attempt, IsUniqueText (first.platform.uniqueText attempt))
    (six' : ∀ attempt, IsUniqueText (second.platform.uniqueText attempt))
    (relative : (⟨first.config.name⟩ : Path).isAbsolute = false)
    {world finish : World σ} {world' : World τ} {report : ReleaseReport}
    (plain : ∀ name ∈ world.files.workingDirectory, Path.IsName name)
    (apart : first.stagesApart world = true)
    (finished : first.execute.perform world = (.ok report, finish))
    (aroundSources : finish.files.passedBy report.archive world.files (first.sources report) = true)
    (around :
      finish.files.passedBy report.archive world.files (first.surroundings world.files) = true)
    (left : world'.files = finish.files)
    (alike : AnsweredAlike finish.events (second.execute.perform world').2.events)
    (free : second.FindsNames finish.files) :
    ∃ report' finish', second.execute.perform world' = (.ok report', finish') ∧
      report'.name = report.name ∧ report'.version = report.version ∧
      report'.target = report.target ∧ report'.archive = report.archive ∧
      report'.members.Perm report.members ∧
      finish'.files.workingDirectory = finish.files.workingDirectory ∧
      ∀ location, finish.files.locate report.archive ≠ .ok location →
        finish'.files.entryAt location = finish.files.entryAt location := by
  have within := events_prepare_subset first world
  rw [finished] at within
  rw [execute_eq] at finished
  obtain ⟨plan, start, prepared, delivering⟩ := Task.perform_bind_eq_ok.mp finished
  have unchanged := keeps.files_prepare world
  rw [prepared] at within unchanged
  obtain ⟨place, members, sha256, rfl, permuted, delivered⟩ :=
    exists_delivered apart six prepared delivering
  rw [unchanged] at delivered
  obtain ⟨mode, content, found⟩ := delivered.found true
  have located : finish.files.locate (first.archivePath plan) = .ok place :=
    FileSystem.locate_eq_ok.mpr (FileSystem.find_eq_ok.mp found).1
  have aroundSources' := FileSystem.notMem_crossed_of_passedBy located aroundSources
  have around' := FileSystem.notMem_crossed_of_passedBy located around
  have planned := planFor_of_prepare prepared
  have staged := first.sources_of_planFor
    (ReleaseReport.ofArchive plan ⟨first.archivePath plan, members, sha256⟩) planned
  rw [staged, List.forall_mem_map] at aroundSources'
  have locked : world.files.isFile (first.config.projectRoot / "Cargo.lock") = true →
      finish.files.isFile (first.config.projectRoot / "Cargo.lock") = true :=
    delivered.overwritten.isFile (around' _ List.mem_cons_self)
  have repeats : Task.Repeats finish.events world.files finish.files first.prepare second.prepare :=
    repeats_prepare keeps keeps' follows.config follows.host locked
  obtain ⟨-, start', prepared', left'⟩ := repeats.repeats rfl left prepared within
    (alike.mono (events_prepare_subset second world'))
  have ready : second.Ready plan start'.files place := by
    rw [left']
    refine delivered.ready follows (first.wellNamed_of_prepare prepared) ?_ six six' plain free
      aroundSources' around'
    rw [(planFor_eq_ok planned).1]
    exact relative
  obtain ⟨members', sha256', finish', delivering', permuted', directory, elsewhere⟩ := ready.deliver
  have archive : second.archivePath plan = first.archivePath plan := by
    rw [archivePath, archivePath, follows.config]
  rw [archive] at delivering'
  have succeeded : second.execute.perform world' = (.ok (ReleaseReport.ofArchive plan
      ⟨first.archivePath plan, members', sha256'⟩), finish') := by
    rw [execute_eq, Task.perform_bind_of_ok prepared', delivering']
  refine ⟨_, finish', succeeded, rfl, rfl, rfl, rfl, permuted'.trans permuted.symm, ?_, ?_⟩
  · rw [directory, left']
  · intro location other
    rw [elsewhere location fun same => other (same ▸ located), left']

theorem execute_again_obliged :
    let run := obliged ⟨"/out"⟩
    ∃ report finish, run.execute.perform (builtProject []) = (.ok report, finish) ∧
      ∃ report' finish', run.execute.perform { finish with events := [] } = (.ok report', finish') ∧
        report'.members.Perm report.members := by
  intro run
  have six : ∀ attempt, IsUniqueText (run.platform.uniqueText attempt) := by
    intro attempt
    change IsUniqueText "a1B2c3"
    exact ⟨rfl, List.all_eq_true.mp (by decide)⟩
  have relative : (⟨run.config.name⟩ : Path).isAbsolute = false := by decide
  have plain : ∀ name ∈ (builtProject []).files.workingDirectory, Path.IsName name :=
    List.forall_mem_nil _
  have keeps : run.KeepsFiles := keepsFiles_obliged _
  have like : run.AnswersLike run := answersLike_obliged _
  have evaluated : run.stagesApart (builtProject []) = true ∧
      (run.execute.perform (builtProject [])).1.toOption.any (fun report =>
        let finish := (run.execute.perform (builtProject [])).2
        finish.files.passedBy report.archive (builtProject []).files (run.sources report) &&
          finish.files.passedBy report.archive (builtProject []).files
            (run.surroundings (builtProject []).files) &&
          !finish.files.holds (finish.files.temporaryBase run.stagingParent /
            (stagingFront ++ run.platform.uniqueText 0 ++ "")) &&
          !finish.files.holds (finish.files.temporaryBase run.config.outputDir /
            (partialFront ++ run.platform.uniqueText 0 ++ partialEnding))) = true := by
    decide +kernel
  obtain ⟨apart, around⟩ := evaluated
  rcases finished : run.execute.perform (builtProject []) with ⟨error | report, finish⟩
  · rw [finished] at around
    cases around
  · rw [finished] at around
    simp only [Except.toOption, Option.any_some, Bool.and_eq_true, Bool.not_eq_true'] at around
    obtain ⟨⟨⟨aroundSources, around⟩, freeStaging⟩, freePacking⟩ := around
    have alike : AnsweredAlike (run.execute.perform (builtProject [])).2.events
        (run.execute.perform { finish with events := [] }).2.events := like.answeredAlike rfl rfl
    rw [finished] at alike
    have free : run.FindsNames finish.files :=
      ⟨⟨0, by decide, freeStaging⟩, ⟨0, by decide, freePacking⟩⟩
    have left : ({ finish with events := [] } : World Unit).files = finish.files := rfl
    have follows : run.Follows run := ⟨rfl, rfl, rfl⟩
    obtain ⟨report', finish', again, -, -, -, -, members, -⟩ :=
      execute_again follows keeps keeps six six relative plain apart finished aroundSources around
        left alike free
    exact ⟨report, finish, rfl, report', finish', again, members⟩

/-! ## Second runs that fail -/

/-- Whether a run succeeds and has staged no file that it reached through the place of its archive,
but a second one on what it has left fails. -/
def failsAgain (first second : ReleaseRun σ) (world : World σ) : Bool :=
  match first.execute.perform world with
  | (.ok report, finish) =>
    finish.files.passedBy report.archive world.files (first.sources report) &&
      !(second.execute.perform { finish with events := [] }).1.isOk
  | (.error _, _) => false

/-- A second run of a release fails, although those that are asked change no files and give the same
answers, and the archive was in the way of no file that was staged. -/
structure FailsAgain (first second : ReleaseRun σ) (world : World σ) : Prop where
  follows : second.Follows first
  keeps : first.KeepsFiles
  keeps' : second.KeepsFiles
  like : second.AnswersLike first
  fails : failsAgain first second world = true

/-- A run that gets what it asks for, except a lock file. -/
def lockless (change : ReleaseConfig → ReleaseConfig) (unique : String) : ReleaseRun Unit :=
  let run := obliged ⟨"/out"⟩
  { run with
    config := change run.config
    executor :=
      { run.executor with
        run := fun _ outside files => ⟨.ok ⟨.exited 1, [], []⟩, [], outside, files⟩ }
    platform := { run.platform with uniqueText := fun _ => unique } }

theorem failsAgain_lockless {change : ReleaseConfig → ReleaseConfig} {unique unique' : String}
    {world : World Unit}
    (fails : failsAgain (lockless change unique) (lockless change unique') world = true) :
    FailsAgain (lockless change unique) (lockless change unique') world where
  follows := ⟨rfl, rfl, rfl⟩
  keeps := ⟨fun _ _ _ => rfl, fun _ _ _ => rfl, fun _ _ => rfl⟩
  keeps' := ⟨fun _ _ _ => rfl, fun _ _ _ => rfl, fun _ _ => rfl⟩
  like := ⟨fun _ _ _ _ _ => rfl, fun _ _ _ _ _ => rfl, fun _ _ _ _ => rfl⟩
  fails := fails

/-- A project that can be reached through a link in the place of its archive. -/
def linkedProject : World Unit := builtProject [("kak-lsp-1.0-a-b-c.tar.gz", .link ⟨"/p"⟩)]

/-- A run that stages files in a folder that it reaches through the place of its archive. -/
def stagedBeyond : String → ReleaseRun Unit := lockless fun config =>
  { config with stagingParent := some ⟨"/out/kak-lsp-1.0-a-b-c.tar.gz/target"⟩ }

theorem failsAgain_stagedBeyond :
    FailsAgain (stagedBeyond "a1B2c3") (stagedBeyond "a1B2c3") linkedProject :=
  failsAgain_lockless (by decide +kernel)

/-- A run that looks for the lock file through the place of its archive. -/
def lockedBeyond : String → ReleaseRun Unit := lockless fun config =>
  { config with
    projectRoot := ⟨"/out/kak-lsp-1.0-a-b-c.tar.gz"⟩
    manifest := ⟨⟨"/p/kak-lsp.toml"⟩, ⟨"/p/README.asciidoc"⟩, []⟩ }

theorem failsAgain_lockedBeyond :
    FailsAgain (lockedBeyond "a1B2c3") (lockedBeyond "a1B2c3") linkedProject :=
  failsAgain_lockless (by decide +kernel)

/-- A run whose archive has a path from the top for a name, which is that of the output folder. -/
def namedFromTop : String → ReleaseRun Unit := lockless fun config =>
  { config with name := "/out/x", outputDir := ⟨"/out/x-1.0-a-b-c.tar.gz"⟩ }

theorem failsAgain_namedFromTop :
    FailsAgain (namedFromTop "a1B2c3") (namedFromTop "a1B2c3")
      (builtProject [("x-1.0-a-b-c.tar.gz", .link ⟨"/tmp"⟩)]) :=
  failsAgain_lockless (by decide +kernel)

/-- A run with a license in the output folder. -/
def licensed : String → ReleaseRun Unit := lockless fun config =>
  { config with manifest := { config.manifest with licenses := [⟨"/out/COPYING"⟩] } }

theorem failsAgain_licensed :
    FailsAgain (licensed "a1B2c3") (licensed "d4E5f6")
      (builtProject [("COPYING", .link ⟨"/tmp/kak-lsp-release-a1B2c3/kak-lsp"⟩)]) :=
  failsAgain_lockless (by decide +kernel)

/-- The archive takes the place of a link through which the staging folder was reached, or the lock
file, or, as its name is a path from the top, the output folder itself. And a file that was reached
through a link into the staging folder is not there for a run that has another one. -/
theorem execute_again_linked :
    FailsAgain (stagedBeyond "a1B2c3") (stagedBeyond "a1B2c3") linkedProject ∧
      FailsAgain (lockedBeyond "a1B2c3") (lockedBeyond "a1B2c3") linkedProject ∧
      FailsAgain (namedFromTop "a1B2c3") (namedFromTop "a1B2c3")
        (builtProject [("x-1.0-a-b-c.tar.gz", .link ⟨"/tmp"⟩)]) ∧
      FailsAgain (licensed "a1B2c3") (licensed "d4E5f6")
        (builtProject [("COPYING", .link ⟨"/tmp/kak-lsp-release-a1B2c3/kak-lsp"⟩)]) :=
  ⟨failsAgain_stagedBeyond, failsAgain_lockedBeyond, failsAgain_namedFromTop, failsAgain_licensed⟩

end ReleaseRun
end ReleasePacker
