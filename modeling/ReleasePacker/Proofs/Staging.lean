import ReleasePacker.Archive.Pack
import ReleasePacker.Proofs.Artifact
import ReleasePacker.Proofs.FileSystem.Effects
import ReleasePacker.Proofs.Task

/-!
# What staging does to files

A staging folder is fresh, so nothing was at its place before. Files are only ever copied to free
names in it, so beside that place everything stays as it was, and in it there are exactly the
copies.
-/

namespace ReleasePacker

/-- A file as a folder holds it. -/
def Tar.Member.node (member : Tar.Member) : String × Node :=
  (member.name, .file member.mode member.content)

/-- The files are those at the start and a staging folder at a place, which a path leads to and
which holds just these files. -/
structure Staged (start : FileSystem) (path : Path) (place : Location) (members : List Tar.Member)
    (files : FileSystem) : Prop where
  proper : place ≠ []
  fresh : start.entryAt place = none
  workingDirectory : files.workingDirectory = start.workingDirectory
  outside : ∀ location, ¬ place <+: location → files.entryAt location = start.entryAt location
  folder : files.root.get? place = some (.folder (members.map Tar.Member.node))
  leads : ∀ last, files.locate path last = .ok place

/-- Everything is as it was. -/
structure FileSystem.SameEntries (before after : FileSystem) : Prop where
  workingDirectory : after.workingDirectory = before.workingDirectory
  entryAt : ∀ location, after.entryAt location = before.entryAt location

/-- A copy has the mode and the content that the file of an artifact had while the staging folder
was there. -/
def Copied (start : FileSystem) (path : Path) (place : Location) (artifact : Artifact)
    (copy : Tar.Member) : Prop :=
  copy.name = artifact.fileName ∧ ∃ members files location,
    Staged start path place members files ∧
      files.find artifact.source = .ok (location, .file copy.mode copy.content)

/-- Removing the staging folder leaves just what was there at the start. -/
theorem Staged.entryAt_erase {start files : FileSystem} {path : Path} {place : Location}
    {members : List Tar.Member} (staged : Staged start path place members files)
    (location : Location) : (files.erase place).entryAt location = start.entryAt location := by
  rw [FileSystem.entryAt_erase staged.proper]
  split
  next below => exact (FileSystem.entryAt_eq_none_of_below staged.fresh below).symm
  next outside => exact staged.outside location outside

theorem Staged.removeTree {start files : FileSystem} {path : Path} {place : Location}
    {members : List Tar.Member} (staged : Staged start path place members files) :
    files.removeTree path = .ok (files.erase place) :=
  FileSystem.removeTree_eq_ok.mpr ⟨place, _, FileSystem.find_eq_ok.mpr
    ⟨FileSystem.locate_eq_ok.mp (staged.leads false), staged.folder⟩, rfl, rfl⟩

theorem Staged.lookup {start files : FileSystem} {path : Path} {place : Location}
    {members : List Tar.Member} (staged : Staged start path place members files) (name : String) :
    files.root.get? (place ++ [name]) = (members.map Tar.Member.node).lookup name := by
  rw [Node.get?_concat, staged.folder]
  rfl

theorem lookup_node_eq_none {members : List Tar.Member} {name : String}
    (free : name ∉ members.map Tar.Member.name) :
    (members.map Tar.Member.node).lookup name = none := by
  rw [List.lookup_eq_none_iff]
  intro item member
  obtain ⟨found, inside, rfl⟩ := List.mem_map.mp member
  exact bne_iff_ne.mpr fun same => free (List.mem_map.mpr ⟨found, inside, same.symm⟩)

/-- Changing the entry of a member that stands in front leaves the others. -/
theorem alter_front (change : Node → Node) (member : Tar.Member) (node : Node)
    {members : List Tar.Member} (free : member.name ∉ members.map Tar.Member.name) :
    Node.alter change [member.name]
        (.folder ((member.name, node) :: members.map Tar.Member.node)) =
      .folder ((member.name, change node) :: members.map Tar.Member.node) := by
  have others : (members.map Tar.Member.node).map (fun item =>
      if item.1 = member.name then (item.1, Node.alter change [] item.2) else item) =
      members.map Tar.Member.node := by
    rw [List.map_map]
    refine List.map_congr_left fun other inside => ?_
    have different : other.name ≠ member.name := fun same =>
      free (List.mem_map.mpr ⟨other, inside, same⟩)
    exact if_neg different
  rw [Node.alter, List.map_cons, others, if_pos rfl, Node.alter]

namespace Staged

variable {start files after : FileSystem} {path source : Path} {place : Location}
  {members : List Tar.Member}

theorem entryAt_eq_none (staged : Staged start path place members files) {name : String}
    (free : name ∉ members.map Tar.Member.name) : files.entryAt (place ++ [name]) = none := by
  rw [FileSystem.entryAt, Node.entryAt, staged.lookup, lookup_node_eq_none free]
  rfl

theorem get?_first {member : Tar.Member}
    (staged : Staged start path place (member :: members) files) :
    files.root.get? (place ++ [member.name]) = some (.file member.mode member.content) := by
  rw [staged.lookup, List.map_cons, Tar.Member.node, List.lookup_cons_self]

/-- A file that is put under a free name becomes the first member. -/
theorem put (staged : Staged start path place members files) {member : Tar.Member}
    (free : member.name ∉ members.map Tar.Member.name) :
    Staged start path place (member :: members)
      (files.put place member.name (.file member.mode member.content)) where
  proper := staged.proper
  fresh := staged.fresh
  workingDirectory := staged.workingDirectory
  outside location outside := by
    rw [FileSystem.entryAt_put_of_not_below place member.name _ fun below =>
      outside ((List.prefix_append place [member.name]).trans below)]
    exact staged.outside location outside
  folder := by
    have here := Node.get?_alter_append
      (Node.insertChild member.name (.file member.mode member.content)) place [] files.root
    rw [List.append_nil, staged.folder, Option.bind_some, Node.get?_nil, Node.insertChild] at here
    rw [FileSystem.put, here]
    have others : (members.map Tar.Member.node).filter (fun item => item.1 ≠ member.name) =
        members.map Tar.Member.node := by
      refine List.filter_eq_self.mpr fun item inside => ?_
      obtain ⟨found, member, rfl⟩ := List.mem_map.mp inside
      exact decide_eq_true fun same => free (List.mem_map.mpr ⟨found, member, same⟩)
    rw [others]
    rfl
  leads last :=
    FileSystem.locate_eq_ok.mpr (FileSystem.follow_of_kept
      (FileSystem.locate_eq_ok.mp (staged.leads last)) rfl
      fun _ there => FileSystem.sameShape_put (staged.entryAt_eq_none free) _ there)

/-- The content of the first member is replaced. -/
theorem replace {member : Tar.Member}
    (staged : Staged start path place (member :: members) files)
    (free : member.name ∉ members.map Tar.Member.name) (mode : Nat) (content : Bytes) :
    Staged start path place (⟨member.name, mode, content⟩ :: members)
      (files.replace (place ++ [member.name]) (.file mode content)) where
  proper := staged.proper
  fresh := staged.fresh
  workingDirectory := staged.workingDirectory
  outside location outside := by
    rw [FileSystem.entryAt_replace_of_not_below _ _ fun below =>
      outside ((List.prefix_append place [member.name]).trans below)]
    exact staged.outside location outside
  folder := by
    rw [FileSystem.replace, Node.get?_alter_above, staged.folder, Option.map_some,
      List.map_cons, Tar.Member.node, alter_front _ member _ free]
    rfl
  leads last :=
    FileSystem.locate_eq_ok.mpr (FileSystem.follow_of_kept
      (FileSystem.locate_eq_ok.mp (staged.leads last)) rfl
      fun location _ => FileSystem.sameShape_replace staged.get?_first mode content location)

/-- Writing under a free name puts a file there: no link can be in its place. -/
theorem writeFile_free (staged : Staged start path place members files) {name : String}
    (plain : Path.IsName name) (free : name ∉ members.map Tar.Member.name) {mode : Nat}
    {content : Bytes} (written : files.writeFile (path / name) content mode = .ok after) :
    files.follow (path / name) true = .ok (.free place name false) ∧
      after = files.put place name (.file mode content) := by
  have nothing := staged.entryAt_eq_none free
  rcases FileSystem.writeFile_eq_ok.mp written with
    ⟨there, node, old, leads, held, -⟩ | ⟨folder, other, leads, rfl⟩
  · obtain ⟨-, ⟨same, -⟩ | ⟨same, held⟩ | ⟨target, held⟩⟩ :=
      FileSystem.follow_join plain (staged.leads true) leads
    · cases same
    · exact absurd nothing held
    · exact absurd (nothing.symm.trans held) nofun
  · obtain ⟨-, ⟨same, -⟩ | ⟨same, held⟩ | ⟨target, held⟩⟩ :=
      FileSystem.follow_join plain (staged.leads true) leads
    · cases same
      exact ⟨leads, rfl⟩
    · cases same
    · exact absurd (nothing.symm.trans held) nofun

/-- A file that is copied to a free name becomes the first member, as far as it can be read. -/
theorem copyFile_of_follow (staged : Staged start path place members files) {name : String}
    (free : name ∉ members.map Tar.Member.name)
    (leads : files.follow (path / name) true = .ok (.free place name false))
    {location : Location} {node : Node} {opened : Reading}
    (found : files.find source = .ok (location, node)) (readable : node.reading = some opened) :
    ∃ after, files.copyFile source (path / name) = (opened.result, after) ∧
      Staged start path place (⟨name, opened.mode, opened.content⟩ :: members) after := by
  have first : Staged start path place (⟨name, opened.mode, []⟩ :: members)
      (files.put place name (.file opened.mode [])) :=
    @put _ _ _ _ _ staged ⟨name, opened.mode, []⟩ free
  have second := first.replace free opened.mode []
  have there := FileSystem.find_eq_ok.mpr
    ⟨FileSystem.follow_put_file leads opened.mode [], first.get?_first⟩
  -- The source is another file than the copy, so it is still there when it is read.
  have leaf := node.leaf_of_reading readable
  have nothing := staged.entryAt_eq_none free
  have held := (FileSystem.get?_eq_leaf leaf).mp (FileSystem.find_eq_ok.mp found).2
  have apart : ¬ place ++ [name] <+: location := by
    intro below
    rw [FileSystem.entryAt_eq_none_of_below nothing below] at held
    cases held
  have kept : ((files.put place name (.file opened.mode [])).replace (place ++ [name])
      (.file opened.mode [])).root.get? location = some node := by
    rw [FileSystem.get?_eq_leaf leaf, FileSystem.entryAt_replace_of_not_below _ _ apart,
      FileSystem.entryAt_put_of_not_below place name _ apart, held]
  have empty : files.writeFile (path / name) [] opened.mode =
      .ok (files.put place name (.file opened.mode [])) :=
    FileSystem.writeFile_eq_ok.mpr (.inr ⟨place, name, leads, rfl⟩)
  exact ⟨_, FileSystem.copyFile_of_writeFile none found readable empty there kept,
    second.replace free opened.mode opened.content⟩

/-- Copying to a free name makes a first member of what can be read, or changes nothing. -/
theorem copyFile_cases (staged : Staged start path place members files) {name : String}
    (plain : Path.IsName name) (free : name ∉ members.map Tar.Member.name) (source : Path) :
    (∃ error, files.copyFile source (path / name) = (.error error, files)) ∨
      ∃ location node opened after, files.find source = .ok (location, node) ∧
        node.reading = some opened ∧
        files.follow (path / name) true = .ok (.free place name false) ∧
        files.copyFile source (path / name) = (opened.result, after) ∧
        Staged start path place (⟨name, opened.mode, opened.content⟩ :: members) after := by
  rcases files.copyFile_cases source (path / name) none with
    unchanged | ⟨location, node, opened, emptied, found, readable, empty⟩
  · exact .inl unchanged
  obtain ⟨leads, -⟩ := staged.writeFile_free plain free empty
  obtain ⟨after, copied, more⟩ := staged.copyFile_of_follow free leads found readable
  exact .inr ⟨location, node, opened, after, found, readable, leads, copied, more⟩

end Staged

/-! ## The life of a staging folder -/

namespace StagingFolder

variable {σ : Type} {world : World σ} {start : FileSystem} {place : Location}

theorem perform_create (platform : Platform) (parent : Option Path) (world : World σ) :
    (create platform parent).perform world =
      match world.files.makeTemporary platform.uniqueText FileSystem.makeFolder
        (parent.getD platform.temporaryFolder) stagingFront "" with
      | .ok (path, files) => (.ok ⟨path, []⟩, { world with files })
      | .error error => (.error (.io error), world) := by
  rw [create, Task.perform_bind, Task.perform_get]
  dsimp only
  cases world.files.makeTemporary platform.uniqueText FileSystem.makeFolder
    (parent.getD platform.temporaryFolder) stagingFront "" <;> rfl

theorem onlyTells_create (platform : Platform) (parent : Option Path) :
    (create platform parent : Task σ StagingFolder).OnlyTells := by
  refine .of_events_eq fun world => ?_
  rw [perform_create]
  cases world.files.makeTemporary platform.uniqueText FileSystem.makeFolder
    (parent.getD platform.temporaryFolder) stagingFront "" <;> exact ⟨rfl, rfl⟩

theorem onlyTells_stage (folder : StagingFolder) (artifact : Artifact) :
    (folder.stage artifact : Task σ StagingFolder).OnlyTells := by
  refine (Task.OnlyTells.inspect _).bind fun present => ?_
  have copying : (Task.alterFiles ReleaseError.io (fun files =>
      files.copyFile artifact.source (folder.path / artifact.fileName)) >>= fun _ =>
        pure { folder with staged := folder.staged ++ [artifact.fileName] } :
      Task σ StagingFolder).OnlyTells :=
    (Task.OnlyTells.alterFiles _ _).bind fun _ => .pure _
  cases present with
  | true => exact copying
  | false => exact .throw _

theorem onlyTells_stageEach (artifacts : List Artifact) (folder : StagingFolder) :
    (folder.stageEach artifacts : Task σ StagingFolder).OnlyTells := by
  induction artifacts generalizing folder with
  | nil => exact .pure folder
  | cons artifact rest ih =>
    have observed : Task.OnlyTells (stageEach.observing (folder.stage artifact) :
        Task σ (Except ReleaseError StagingFolder)) := onlyTells_stage folder artifact
    refine observed.bind fun answer => ?_
    cases answer with
    | ok folder => exact ih folder
    | error error => exact (Task.OnlyTells.tryChangeFiles _).bind fun _ => .throw error

/-- A fresh folder is an empty staging folder; making one fails without a trace. -/
theorem create_spec (platform : Platform) (parent : Option Path) (world : World σ) :
    (∃ error, (create platform parent).perform world = (.error error, world)) ∨
    ∃ path created place, (create platform parent).perform world =
        (.ok ⟨path, []⟩, { world with files := created }) ∧
      world.files.makeTemporary platform.uniqueText FileSystem.makeFolder
        (parent.getD platform.temporaryFolder) stagingFront "" = .ok (path, created) ∧
      Staged world.files path place [] created := by
  rw [perform_create]
  rcases made : world.files.makeTemporary platform.uniqueText FileSystem.makeFolder
    (parent.getD platform.temporaryFolder) stagingFront "" with error | ⟨path, created⟩
  · exact .inl ⟨_, rfl⟩
  obtain ⟨attempt, -, making⟩ := FileSystem.makeTemporary_eq_ok made
  obtain ⟨folder, name, trailing, free, rfl⟩ := FileSystem.free_of_makeFolder making
  obtain ⟨inside, nothing⟩ := FileSystem.free_spec free
  obtain ⟨children, found⟩ := FileSystem.entryAt_eq_folder.mp inside
  refine .inr ⟨path, _, folder ++ [name], rfl, rfl, ?_⟩
  refine ⟨by simp, nothing, rfl, fun location outside => ?_, ?_, fun last => ?_⟩
  · exact FileSystem.entryAt_put_of_not_below folder name _ outside
  · have there := FileSystem.get?_put_append found name (.folder []) []
    rwa [List.append_nil, Node.get?_nil] at there
  · exact FileSystem.locate_eq_ok.mpr (FileSystem.follow_put free nofun (fun _ => rfl) nofun)

theorem perform_stage (folder : StagingFolder) (artifact : Artifact) (shortage : Option Shortage)
    (world : World σ) :
    (folder.stage artifact shortage).perform world =
      if world.files.isFile artifact.source then
        match world.files.copyFile artifact.source (folder.path / artifact.fileName) shortage with
        | (.ok (), files) => (.ok { folder with staged := folder.staged ++ [artifact.fileName] },
            { world with files })
        | (.error error, files) => (.error (.io error), { world with files })
      else (.error (.missingArtifact artifact.source), world) := by
  rw [stage, Task.perform_bind, Task.perform_inspect]
  dsimp only
  cases world.files.isFile artifact.source with
  | false => rfl
  | true =>
    change (Task.alterFiles ReleaseError.io _ >>= fun _ => pure _ :
      Task σ StagingFolder).perform world = _
    rw [Task.perform_bind, Task.perform_alterFiles]
    rcases world.files.copyFile artifact.source (folder.path / artifact.fileName) shortage with
      ⟨error | _, files⟩ <;> rfl

/-- A step that succeeds lists the name of the file. -/
theorem staged_of_stage {folder folder' : StagingFolder} {artifact : Artifact}
    {shortage : Option Shortage} {finish : World σ}
    (performed : (folder.stage artifact shortage).perform world = (.ok folder', finish)) :
    folder' = { folder with staged := folder.staged ++ [artifact.fileName] } := by
  rw [perform_stage] at performed
  split at performed
  · split at performed <;> cases performed
    rfl
  · cases performed

/-- A file is staged as one more member, or what can be read of it is and the step fails, or nothing
changes. -/
theorem stage_spec {folder : StagingFolder} {members : List Tar.Member} {artifact : Artifact}
    (staged : Staged start folder.path place members world.files)
    (plain : Path.IsName artifact.fileName)
    (free : artifact.fileName ∉ members.map Tar.Member.name) :
    (∃ error members' files, (folder.stage artifact).perform world =
        (.error error, { world with files }) ∧ Staged start folder.path place members' files) ∨
    ∃ folder' copy files, (folder.stage artifact).perform world =
        (.ok folder', { world with files }) ∧
      folder'.path = folder.path ∧ Copied start folder.path place artifact copy ∧
      Staged start folder.path place (copy :: members) files := by
  rw [perform_stage]
  split
  swap
  · exact .inl ⟨_, members, world.files, rfl, staged⟩
  rcases staged.copyFile_cases plain free artifact.source with
    ⟨error, unchanged⟩ | ⟨location, node, opened, files, found, readable, -, copied, more⟩
  · rw [unchanged]
    exact .inl ⟨_, members, world.files, rfl, staged⟩
  rw [copied]
  rcases Node.reading_cases readable with ⟨whole, rfl⟩ | ⟨error, breaks, -⟩
  · rw [whole]
    exact .inr ⟨_, ⟨artifact.fileName, opened.mode, opened.content⟩, files, rfl, rfl,
      ⟨rfl, members, world.files, location, staged, found⟩, more⟩
  · rw [breaks]
    exact .inl ⟨_, _, files, rfl, more⟩

theorem perform_discard (folder : StagingFolder) (world : World σ) :
    folder.discard.perform world =
      (.ok (), match world.files.removeTree folder.path with
        | .ok files => { world with files }
        | .error _ => world) := rfl

theorem perform_stageEach_cons (folder : StagingFolder) (artifact : Artifact)
    (rest : List Artifact) (world : World σ) :
    (folder.stageEach (artifact :: rest)).perform world =
      match (folder.stage artifact).perform world with
      | (.ok folder, middle) => (folder.stageEach rest).perform middle
      | (.error error, middle) => (.error error, (folder.discard.perform middle).2) := by
  have observed : Task.perform (stageEach.observing (folder.stage artifact) :
      Task σ (Except ReleaseError StagingFolder)) world =
        (.ok ((folder.stage artifact).perform world).1,
          ((folder.stage artifact).perform world).2) := rfl
  rw [stageEach, Task.perform_bind, observed]
  rcases (folder.stage artifact).perform world with ⟨_ | _, _⟩ <;> rfl

/-- All files are staged in order, or nothing is left of the folder. -/
theorem stageEach_spec {folder : StagingFolder} {members : List Tar.Member}
    {artifacts : List Artifact} (staged : Staged start folder.path place members world.files)
    (plain : ∀ artifact ∈ artifacts, Path.IsName artifact.fileName)
    (free : ∀ artifact ∈ artifacts, artifact.fileName ∉ members.map Tar.Member.name)
    (nodup : (artifacts.map Artifact.fileName).Nodup) :
    (∃ error files, (folder.stageEach artifacts).perform world =
        (.error error, { world with files }) ∧ start.SameEntries files) ∨
    ∃ folder' copies files, (folder.stageEach artifacts).perform world =
        (.ok folder', { world with files }) ∧
      folder'.path = folder.path ∧
      List.Forall₂ (Copied start folder.path place) artifacts copies ∧
      Staged start folder.path place (copies.reverse ++ members) files := by
  induction artifacts generalizing folder members world with
  | nil => exact .inr ⟨folder, [], world.files, rfl, rfl, .nil, staged⟩
  | cons artifact rest ih =>
    rw [List.forall_mem_cons] at plain free
    rw [List.map_cons, List.nodup_cons] at nodup
    rw [perform_stageEach_cons]
    rcases stage_spec staged plain.1 free.1 with
      ⟨error, members', files, ending, left⟩ |
      ⟨folder', copy, files, ending, samePath, copied, more⟩
    -- The folder that was given to the failing step is still there, and it can be removed.
    · rw [ending]
      dsimp only
      rw [perform_discard, left.removeTree]
      exact .inl ⟨error, _, rfl, (FileSystem.workingDirectory_erase place).trans
        left.workingDirectory, left.entryAt_erase⟩
    · rw [ending]
      rw [← samePath] at more
      have later : ∀ artifact ∈ rest,
          artifact.fileName ∉ (copy :: members).map Tar.Member.name := by
        intro other inside
        rw [List.map_cons, List.mem_cons, not_or, copied.1]
        exact ⟨fun same => nodup.1 (List.mem_map.mpr ⟨other, inside, same⟩), free.2 other inside⟩
      rcases @ih { world with files } folder' (copy :: members) more plain.2 later nodup.2 with
        ⟨error, files', ending', same⟩ | ⟨folder'', copies, files', ending', samePath', each, all⟩
      · exact .inl ⟨error, files', ending', same⟩
      · refine .inr ⟨folder'', copy :: copies, files', ending', samePath'.trans samePath, ?_, ?_⟩
        · exact .cons copied (samePath ▸ each)
        · rw [List.reverse_cons, List.append_assoc, List.singleton_append, ← samePath]
          exact all

end StagingFolder

theorem onlyTells_stageAll {σ : Type} (platform : Platform) (set : ArtifactSet)
    (parent : Option Path) : (stageAll platform set parent : Task σ StagingFolder).OnlyTells :=
  (StagingFolder.onlyTells_create _ _).bind fun folder =>
    StagingFolder.onlyTells_stageEach _ folder

/-- All files of a set are staged in a fresh folder, or nothing has changed. -/
theorem stageAll_spec {σ : Type} (platform : Platform) {set : ArtifactSet} (named : set.WellNamed)
    (parent : Option Path) (world : World σ) :
    (∃ error files, (stageAll platform set parent).perform world =
        (.error error, { world with files }) ∧ world.files.SameEntries files) ∨
    ∃ folder created place copies files, (stageAll platform set parent).perform world =
        (.ok folder, { world with files }) ∧
      world.files.makeTemporary platform.uniqueText FileSystem.makeFolder
        (parent.getD platform.temporaryFolder) stagingFront "" = .ok (folder.path, created) ∧
      Staged world.files folder.path place [] created ∧
      List.Forall₂ (Copied world.files folder.path place) set.entries copies ∧
      Staged world.files folder.path place copies.reverse files := by
  rw [stageAll]
  rcases StagingFolder.create_spec platform parent world with
    ⟨error, ending⟩ | ⟨path, created, place, ending, made, fresh⟩
  · exact .inl ⟨error, world.files, Task.perform_bind_of_error ending _, rfl, fun _ => rfl⟩
  · rw [Task.perform_bind_of_ok ending]
    rcases @StagingFolder.stageEach_spec _ { world with files := created } _ _ ⟨path, []⟩ []
        set.entries fresh named.isName (by simp) named.nodup with
      ⟨error, files, ending, same⟩ | ⟨folder, copies, files, ending, samePath, each, all⟩
    · exact .inl ⟨error, files, ending, same⟩
    · subst samePath
      rw [List.append_nil] at all
      exact .inr ⟨folder, created, place, copies, files, ending, made, fresh, each, all⟩

end ReleasePacker
