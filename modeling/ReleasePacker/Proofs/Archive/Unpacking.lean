import ReleasePacker.Proofs.Archive.Members
import ReleasePacker.Proofs.FileSystem.Crossing
import ReleasePacker.Proofs.Packing

/-!
# What unpacking a member does to files

A member is written in three steps: room is made for it, its data is put there, and the file is made
executable. What stood in its place is gone after the first step, so a fault in the data, which is
met in the second, leaves the part that can be read. Beside that place, only folders that were
missing are made.

## Main definitions

* `RoomEnding`, `InstallEnding` — the ways in which making room and writing a member end
* `HasRoom` — a file can be put under a name into a folder
* `Confined` — nothing changes but what a path addresses

## Main results

* `makeRoom_spec`, `installEntry_spec` — these are all ways
* `HasRoom.installEntry` — with room for it, a whole member is written
-/

namespace ReleasePacker

namespace FileSystem

variable {files after : FileSystem} {path : Path} {name : String} {place front : Location}

/-! ## Files and links that are taken away -/

/-- A path that leads to a folder without what was taken away led there before. -/
theorem EntersFolder.of_erase (proper : place ≠ [])
    (enters : (files.erase place).EntersFolder path front) : files.EntersFolder path front := by
  refine enters.of_kept (workingDirectory_erase place).symm fun l there => .of_eq ?_
  rw [entryAt_erase proper] at there ⊢
  exact if_neg fun below => there (if_pos below)

/-- No path to a folder leads through a file, so it may be taken away. -/
theorem EntersFolder.erase_file {entry : Entry} (enters : files.EntersFolder path front)
    (held : files.entryAt place = some entry) (other : entry ≠ .folder)
    (noLink : ∀ target, entry ≠ .link target) (proper : place ≠ []) :
    (files.erase place).EntersFolder path front := by
  obtain ⟨inside, passed, leads⟩ := enters
  have noFolder : files.entryAt place ≠ some .folder := fun folder =>
    other (Option.some.inj (held.symm.trans folder))
  -- What is there and is not the file does not stand below it either.
  have same {l : Location} (there : files.entryAt l ≠ none) (other : l ≠ place) :
      SameShape files (files.erase place) l := by
    refine .of_eq ?_
    rw [entryAt_erase proper, if_neg]
    rintro ⟨back, rfl⟩
    refine there (entryAt_of_ne_folder noFolder ?_)
    rintro rfl
    exact other (List.append_nil _)
  have folder {l : Location} (there : files.entryAt l = some .folder) :
      SameShape files (files.erase place) l :=
    same (by rw [there]; exact nofun) fun elsewhere => noFolder (elsewhere ▸ there)
  have start : files.entryAt (linkStart files.workingDirectory path) = some .folder := by
    by_cases moves : takenSteps path = []
    · rw [moves] at leads
      cases leads
      exact inside
    · exact leads.start_folder moves
  refine ⟨(folder inside).folder inside, passed, ?_⟩
  rw [workingDirectory_erase]
  refine leads.transfer (folder start) (fun l member => ?_) nofun
  refine same (leads.passed_exists l member) ?_
  rintro rfl
  cases leads.of_file_passed member held other noLink
  exact noFolder inside

/-- What a path below a folder addresses is the entry of that folder. -/
theorem EntersFolder.eq_of_addresses (enters : files.EntersFolder path front)
    (plain : Path.IsName name) (addresses : files.Addresses (path / name) place) :
    place = front ++ [name] := by
  have accepted : checkPath (path / name) = .ok () ∧
      (Utf8.encode name).length ≤ maxNameBytes := by
    rcases addresses with found | ⟨_, _, free, -⟩
    · exact ⟨(follow_eq_ok.mp found).1, length_le_of_follow plain found⟩
    · exact ⟨(follow_eq_ok.mp free).1, length_le_of_follow plain free⟩
  cases there : files.entryAt (front ++ [name]) with
  | none =>
    have leads : files.follow (path / name) false = .ok _ :=
      enters.follow_free plain accepted.1 accepted.2 there
    rcases addresses with found | ⟨_, _, free, rfl⟩
    · cases leads.symm.trans found
    · cases leads.symm.trans free
      rfl
  | some entry =>
    have leads : files.follow (path / name) false = .ok _ :=
      enters.follow_found plain accepted.1 accepted.2 there nofun
    rcases addresses with found | ⟨_, _, free, rfl⟩
    · cases leads.symm.trans found
      rfl
    · cases leads.symm.trans free

/-- A path that addresses something can be followed to it. -/
theorem Addresses.exists_entersFolder (plain : Path.IsName name)
    (addresses : files.Addresses (path / name) place) :
    ∃ front, files.EntersFolder path front ∧ place = front ++ [name] ∧
      checkPath (path / name) = .ok () ∧ (Utf8.encode name).length ≤ maxNameBytes := by
  have leads : ∃ destination, files.follow (path / name) false = .ok destination := by
    rcases addresses with found | ⟨_, _, free, -⟩
    · exact ⟨_, found⟩
    · exact ⟨_, free⟩
  obtain ⟨destination, leads⟩ := leads
  obtain ⟨front, enters⟩ := exists_entersFolder_of_name plain leads
  exact ⟨front, enters, enters.eq_of_addresses plain addresses, (follow_eq_ok.mp leads).1,
    length_le_of_follow plain leads⟩

/-- A file can be made under a name that the folder does not have. -/
theorem EntersFolder.createNew (enters : files.EntersFolder path front)
    (plain : Path.IsName name) (accepted : checkPath (path / name) = .ok ())
    (short : (Utf8.encode name).length ≤ maxNameBytes)
    (nothing : files.entryAt (front ++ [name]) = none) :
    files.createNew (path / name) = .ok (files.put front name (.file defaultMode [])) :=
  createNew_eq_ok.mpr
    ⟨front, name, enters.follow_free plain accepted short nothing, rfl⟩

/-- A new file under a free name. -/
theorem createNew_spec {mode : Nat} (made : files.createNew path mode = .ok after) :
    ∃ front name, files.follow path false = .ok (.free front name false) ∧
      Replaced files (front ++ [name]) mode [] after ∧
      ∀ last, after.follow path last = .ok (.found (front ++ [name])) := by
  obtain ⟨front, name, free, rfl⟩ := createNew_eq_ok.mp made
  obtain ⟨inside, nothing⟩ := free_spec free
  exact ⟨front, name, free, replaced_put inside (by rw [nothing]; exact nofun) mode [],
    fun _ => follow_put free nofun nofun nofun⟩

end FileSystem

/-- A file that takes the place of what was taken away before takes the place of that. -/
theorem Replaced.of_erase {before after : FileSystem} {place : Location} {mode : Nat}
    {content : Bytes} (noFolder : before.entryAt place ≠ some .folder) (proper : place ≠ [])
    (replaced : Replaced (before.erase place) place mode content after) :
    Replaced before place mode content after where
  noFolder := noFolder
  workingDirectory :=
    replaced.workingDirectory.trans (FileSystem.workingDirectory_erase place)
  placed := replaced.placed
  elsewhere location other := by
    rw [replaced.elsewhere location other, FileSystem.entryAt_erase proper]
    split
    next below =>
      obtain ⟨back, rfl⟩ := below
      refine (FileSystem.entryAt_of_ne_folder noFolder ?_).symm
      rintro rfl
      exact other (List.append_nil _)
    · rfl

/-- Nothing is different but what a path addresses. -/
structure Confined (before : FileSystem) (path : Path) (after : FileSystem) : Prop where
  workingDirectory : after.workingDirectory = before.workingDirectory
  entryAt : ∀ location, after.entryAt location = before.entryAt location ∨
    before.Addresses path location

namespace Confined

variable {before after : FileSystem} {path : Path} {place : Location}

theorem refl (files : FileSystem) (path : Path) : Confined files path files :=
  ⟨rfl, fun _ => .inl rfl⟩

theorem of_replaced {mode : Nat} {content : Bytes} (addresses : before.Addresses path place)
    (replaced : Replaced before place mode content after) : Confined before path after where
  workingDirectory := replaced.workingDirectory
  entryAt location := by
    by_cases same : location = place
    · exact .inr (same ▸ addresses)
    · exact .inl (replaced.elsewhere location same)

theorem of_erase {link : Path} (addresses : before.Addresses path place)
    (there : before.entryAt place = some (.link link)) (proper : place ≠ []) :
    Confined before path (before.erase place) where
  workingDirectory := FileSystem.workingDirectory_erase place
  entryAt location := by
    rw [FileSystem.entryAt_erase proper]
    split
    next below =>
      obtain ⟨back, rfl⟩ := below
      by_cases same : back = []
      · rw [same, List.append_nil]
        exact .inr addresses
      · exact .inl (FileSystem.entryAt_of_ne_folder (by rw [there]; exact nofun) same).symm
    · exact .inl rfl

/-- A folder made under a name at the end of a path is what the path addresses. -/
theorem of_makeFolder {init : List FileSystem.Step} {name : String}
    (ends : FileSystem.steps path = init ++ [.enter name])
    (made : before.makeFolder path = .ok after) : Confined before path after := by
  obtain ⟨front, final, trailing, free, rfl⟩ := FileSystem.free_of_makeFolder made
  obtain ⟨inside, nothing⟩ := FileSystem.free_spec free
  have addresses : before.Addresses path (front ++ [final]) := by
    obtain ⟨-, passed, leads⟩ := FileSystem.follow_eq_ok.mp free
    rw [ends] at leads
    obtain ⟨_, ⟨same, -⟩ | same⟩ := leads.last_name
    · cases same
    · cases same
      exact .inr ⟨_, _, free, rfl⟩
  refine ⟨rfl, fun location => ?_⟩
  by_cases below : front ++ [final] <+: location
  · obtain ⟨back, rfl⟩ := below
    cases back with
    | nil =>
      rw [List.append_nil]
      exact .inr addresses
    | cons other rest =>
      rw [FileSystem.entryAt_put inside, if_pos (List.prefix_append _ _),
        FileSystem.entryAt_eq_none_of_below nothing (List.prefix_append _ _),
        List.drop_left' (by simp)]
      exact .inl rfl
  · exact .inl (FileSystem.entryAt_put_of_not_below front final _ below)

end Confined

/-! ## Making room -/

/-- The ways in which making room ends. -/
inductive RoomEnding (files : FileSystem) (target : Path) :
    Except IoError Unit × FileSystem → Prop
  /-- An empty file is there. -/
  | made (place : Location) (room : FileSystem) (addresses : files.Addresses target place)
    (replaced : Replaced files place FileSystem.defaultMode [] room)
    (leads : ∀ last, room.follow target last = .ok (.found place)) :
    RoomEnding files target (.ok (), room)
  /-- Nothing was done. -/
  | refused (error : IoError) : RoomEnding files target (.error error, files)
  /-- A link was taken away by way of which the path led to its own place. -/
  | unlinked (error : IoError) (place : Location) (link : Path)
    (addresses : files.Addresses target place)
    (there : files.entryAt place = some (.link link)) (proper : place ≠ []) :
    RoomEnding files target (.error error, files.erase place)

section

variable {files : FileSystem} {folder : Path} {name : String} (plain : Path.IsName name)
include plain

theorem makeRoom_spec (files : FileSystem) (folder : Path) :
    RoomEnding files (folder / name) (makeRoom (folder / name) files) := by
  rw [makeRoom]
  cases created : files.createNew (folder / name) with
  | ok made =>
    obtain ⟨front, last, free, replaced, leads⟩ := FileSystem.createNew_spec created
    exact .made _ made (.inr ⟨front, last, free, rfl⟩) replaced leads
  | error error =>
    dsimp only
    split
    swap
    · exact .refused error
    cases removing : files.removeFile (folder / name) with
    | error error => exact .refused error
    | ok removed =>
      obtain ⟨place, node, found, noFolder, rfl⟩ := FileSystem.removeFile_eq_ok.mp removing
      obtain ⟨leads, held⟩ := FileSystem.find_eq_ok.mp found
      have addresses : files.Addresses (folder / name) place := .inl leads
      obtain ⟨front, enters, rfl, accepted, short⟩ := addresses.exists_entersFolder plain
      have there := FileSystem.entryAt_of_get? held
      have proper : front ++ [name] ≠ [] := by simp
      dsimp only
      cases again : (files.erase (front ++ [name])).createNew (folder / name) with
      | ok made =>
        -- The path leads through the same folder as before, so the place is the same.
        obtain ⟨front', last, free, replaced, leads'⟩ := FileSystem.createNew_spec again
        obtain ⟨front'', enters', same, -⟩ :=
          FileSystem.Addresses.exists_entersFolder plain (.inr ⟨front', last, free, rfl⟩)
        cases (enters'.of_erase proper).unique enters
        rw [same] at replaced leads'
        refine .made _ made addresses (.of_erase ?_ proper replaced) leads'
        rw [there]
        exact fun folder => noFolder (Option.some.inj folder)
      | error error =>
        cases node with
        | folder children => exact absurd rfl noFolder
        | link link => exact .unlinked error _ link addresses there proper
        | file | broken =>
          -- A file was not on the way, so the name is free once it is gone.
          have nothing : (files.erase (front ++ [name])).entryAt (front ++ [name]) = none := by
            rw [FileSystem.entryAt_erase proper, if_pos List.prefix_rfl]
          cases again.symm.trans
            ((enters.erase_file there nofun nofun proper).createNew plain accepted short nothing)

/-- Room is made where no folder is, and no link by way of which the path leads to its own place. -/
theorem exists_makeRoom {place : Location} (addresses : files.Addresses (folder / name) place)
    (noFolder : files.entryAt place ≠ some .folder)
    (apart : ∀ link, files.entryAt place = some (.link link) →
      (files.erase place).isFolder folder = true) :
    ∃ room, makeRoom (folder / name) files = (.ok (), room) := by
  obtain ⟨front, enters, rfl, accepted, short⟩ := addresses.exists_entersFolder plain
  have proper : front ++ [name] ≠ [] := by simp
  rw [makeRoom]
  cases there : files.entryAt (front ++ [name]) with
  | none =>
    rw [enters.createNew plain accepted short there]
    exact ⟨_, rfl⟩
  | some entry =>
    have found : files.follow (folder / name) false = .ok _ :=
      enters.follow_found plain accepted short there nofun
    have exists' : files.createNew (folder / name) = .error .entryExists := by
      rw [FileSystem.createNew, found]
    obtain ⟨node, held, same⟩ := FileSystem.get?_isSome_of_entryAt there
    have removing : files.removeFile (folder / name) = .ok (files.erase (front ++ [name])) :=
      FileSystem.removeFile_eq_ok.mpr ⟨_, node, FileSystem.find_eq_ok.mpr ⟨found, held⟩,
        fun folder => noFolder (by rw [there, ← same, folder]), rfl⟩
    -- Without what stood there the path still leads to the same folder.
    have enters' : (files.erase (front ++ [name])).EntersFolder folder front := by
      cases entry with
      | folder => exact absurd there noFolder
      | file | broken => exact enters.erase_file there (by simp) (by simp) proper
      | link link =>
        obtain ⟨front', leads, inside⟩ := FileSystem.isFolder_eq_true.mp (apart link there)
        have enters' := FileSystem.EntersFolder.of_locate (FileSystem.locate_eq_ok.mpr leads) inside
        rwa [(enters'.of_erase proper).unique enters] at enters'
    have nothing : (files.erase (front ++ [name])).entryAt (front ++ [name]) = none := by
      rw [FileSystem.entryAt_erase proper, if_pos List.prefix_rfl]
    rw [exists', removing]
    dsimp only
    rw [if_pos rfl, enters'.createNew plain accepted short nothing]
    exact ⟨_, rfl⟩

end

/-! ## Writing a member -/

namespace FileSystem

variable {files after : FileSystem} {path : Path}

theorem isFolder_of_makeFolder (made : files.makeFolder path = .ok after) :
    after.isFolder path = true := by
  obtain ⟨front, name, trailing, free, rfl⟩ := free_of_makeFolder made
  refine isFolder_eq_true.mpr
    ⟨front ++ [name], follow_put free nofun (fun _ => rfl) nofun, ?_⟩
  rw [entryAt_put (free_spec free).1, if_pos List.prefix_rfl, List.drop_eq_nil_of_le (by simp)]
  rfl

/-- Once a folder is made sure of, there is one, and nothing else is different. -/
theorem ensureFolder_spec {init : List Step} {name : String}
    (ends : steps path = init ++ [.enter name]) (ensured : files.ensureFolder path = .ok after) :
    Confined files path after ∧ after.isFolder path = true := by
  rw [ensureFolder] at ensured
  cases tried : files.makeFolder path with
  | ok made =>
    rw [tried] at ensured
    cases ensured
    exact ⟨.of_makeFolder ends tried, isFolder_of_makeFolder tried⟩
  | error error =>
    rw [tried] at ensured
    dsimp only at ensured
    split at ensured
    next inside =>
      cases ensured
      exact ⟨.refl _ _, inside⟩
    · cases ensured

/-- The bits of folders are not kept. -/
theorem setMode_of_isFolder (inside : files.isFolder path = true) (mode : Nat) :
    files.setMode path mode = .ok files := by
  obtain ⟨location, leads, there⟩ := isFolder_eq_true.mp inside
  obtain ⟨children, held⟩ := entryAt_eq_folder.mp there
  exact setMode_of_reading_eq_none (find_eq_ok.mpr ⟨leads, held⟩) rfl mode

end FileSystem

/-- In the oldest layout such a name is that of a folder. -/
def Tar.Entry.StandsForFolder (entry : Tar.Entry) : Prop :=
  (entry.layout ≠ .ustar && entry.endsInSeparator) = true

instance (entry : Tar.Entry) : Decidable entry.StandsForFolder :=
  inferInstanceAs (Decidable (_ = true))

/-- The ways in which writing a member into a folder ends. In all of them folders that were missing
may have been made. -/
inductive InstallEnding (files : FileSystem) (entry : Tar.Entry) (name : String) (folder : Path) :
    Except ExtractionError Path × FileSystem → Prop
  /-- Nothing was written. -/
  | unwritten (source : IoError) (made : FileSystem)
    (folders : FoldersMade (FileSystem.ancestors folder) files made) :
    InstallEnding files entry name folder (.error (.io source), made)
  /-- A link was taken away by way of which the folder was reached. -/
  | unlinked (source : IoError) (made : FileSystem) (place : Location) (link : Path)
    (folders : FoldersMade (FileSystem.ancestors folder) files made)
    (addresses : made.Addresses (folder / name) place)
    (there : made.entryAt place = some (.link link)) (proper : place ≠ []) :
    InstallEnding files entry name folder (.error (.io source), made.erase place)
  /-- The data that can be read was written, and it is not all. -/
  | broken (made : FileSystem) (place : Location) (after : FileSystem)
    (folders : FoldersMade (FileSystem.ancestors folder) files made)
    (addresses : made.Addresses (folder / name) place)
    (replaced : Replaced made place FileSystem.defaultMode entry.data after)
    (damaged : entry.isWhole = false) :
    InstallEnding files entry name folder (.error (.io damagedArchive), after)
  /-- The member is there as an executable. -/
  | installed (made : FileSystem) (place : Location) (after : FileSystem)
    (folders : FoldersMade (FileSystem.ancestors folder) files made)
    (addresses : made.Addresses (folder / name) place)
    (replaced : Replaced made place executableMode entry.data after)
    (found : after.find (folder / name) = .ok (place, .file executableMode entry.data))
    (whole : entry.isWhole = true) (plainFile : ¬ entry.StandsForFolder) :
    InstallEnding files entry name folder (.ok (folder / name), after)
  /-- There is a folder, as the name of the member asks for one. -/
  | folder (made after : FileSystem)
    (folders : FoldersMade (FileSystem.ancestors folder) files made)
    (confined : Confined made (folder / name) after)
    (inside : after.isFolder (folder / name) = true) (asked : entry.StandsForFolder) :
    InstallEnding files entry name folder (.ok (folder / name), after)

/-- The two ways of unpacking: a folder, or a file with what data can be read. -/
theorem unpackEntry_eq (files : FileSystem) (entry : Tar.Entry) (target : Path) :
    unpackEntry files entry target =
      if entry.StandsForFolder then
        match files.ensureFolder target with
        | .ok files => (.ok (), files)
        | .error error => (.error (unpackFailure error), files)
      else
        match makeRoom target files with
        | (.error error, files) => (.error (unpackFailure error), files)
        | (.ok (), files) =>
          match files.writeFile target entry.data with
          | .error error => (.error (unpackFailure error), files)
          | .ok files =>
            if entry.isWhole then (.ok (), files) else (.error (.io damagedArchive), files) := rfl

/-- Into the room that was made for it data is written, and it is made executable. -/
theorem exists_filled {made room : FileSystem} {place : Location} {target : Path}
    (replaced : Replaced made place FileSystem.defaultMode [] room)
    (leads : ∀ last, room.follow target last = .ok (.found place)) (data : Bytes) :
    ∃ filled after, room.writeFile target data = .ok filled ∧
      Replaced made place FileSystem.defaultMode data filled ∧
      filled.setMode target executableMode = .ok after ∧
      Replaced made place executableMode data after ∧
      after.find target = .ok (place, .file executableMode data) := by
  have empty := FileSystem.get?_eq_file.mpr replaced.placed
  have filled := replaced.replace FileSystem.defaultMode data
  have held := FileSystem.get?_eq_file.mpr filled.placed
  have reaches := FileSystem.follow_of_kept (leads true)
    (FileSystem.workingDirectory_replace place (.file FileSystem.defaultMode data))
    fun l _ => FileSystem.sameShape_replace empty _ _ l
  have executable := filled.replace executableMode data
  have reaches' := FileSystem.follow_of_kept reaches
    (FileSystem.workingDirectory_replace place (.file executableMode data))
    fun l _ => FileSystem.sameShape_replace held _ _ l
  exact ⟨_, _, FileSystem.writeFile_of_find (FileSystem.find_eq_ok.mpr ⟨leads true, empty⟩) data _,
    filled, FileSystem.setMode_of_find (FileSystem.find_eq_ok.mpr ⟨reaches, held⟩) executableMode,
    executable, FileSystem.find_eq_ok.mpr ⟨reaches', FileSystem.get?_eq_file.mpr executable.placed⟩⟩

section

variable {name : String} (plain : Path.IsName name)
include plain

theorem installEntry_spec (files : FileSystem) (entry : Tar.Entry) (folder : Path) :
    InstallEnding files entry name folder (installEntry files entry name folder) := by
  have folders := files.makeFolders_spec folder
  rw [installEntry]
  rcases making : files.makeFolders folder with ⟨error | _, made⟩ <;> rw [making] at folders
  · exact .unwritten error made folders
  dsimp only
  rw [unpackEntry_eq]
  by_cases asked : entry.StandsForFolder
  · rw [if_pos asked]
    cases ensured : made.ensureFolder (folder / name) with
    | error error => exact .unwritten _ made folders
    | ok after =>
      obtain ⟨confined, inside⟩ :=
        FileSystem.ensureFolder_spec (FileSystem.steps_join_name folder plain) ensured
      dsimp only
      rw [FileSystem.setMode_of_isFolder inside]
      exact .folder made after folders confined inside asked
  rw [if_neg asked]
  have ending := makeRoom_spec plain made folder
  generalize makeRoom (folder / name) made = ended at ending
  cases ending with
  | refused error => exact .unwritten _ made folders
  | unlinked error place link addresses there proper =>
    exact .unlinked _ made place link folders addresses there proper
  | made place room addresses replaced leads =>
    obtain ⟨filled, after, writing, partly, setting, executable, found⟩ :=
      exists_filled replaced leads entry.data
    dsimp only
    rw [writing]
    dsimp only
    cases whole : entry.isWhole with
    | false => exact .broken made place filled folders addresses partly whole
    | true =>
      rw [if_pos rfl]
      dsimp only
      rw [setting]
      exact .installed made place after folders addresses executable found whole asked

/-- A file can be put under a name into a folder, once the folders that are missing are made: no
folder has the name, and no link by way of which the folder itself is reached. -/
structure HasRoom (files : FileSystem) (folder : Path) (name : String) (made : FileSystem)
    (place : Location) : Prop where
  making : files.makeFolders folder = (.ok (), made)
  addresses : made.Addresses (folder / name) place
  noFolder : made.entryAt place ≠ some .folder
  apart : ∀ link, made.entryAt place = some (.link link) →
    (made.erase place).isFolder folder = true

/-- With room for it, a whole member is written. -/
theorem HasRoom.installEntry {files made : FileSystem} {folder : Path} {place : Location}
    (room : HasRoom files folder name made place) {entry : Tar.Entry}
    (whole : entry.isWhole = true) (plainFile : ¬ entry.StandsForFolder) :
    (installEntry files entry name folder).1 = .ok (folder / name) := by
  obtain ⟨space, making⟩ := exists_makeRoom plain room.addresses room.noFolder room.apart
  rw [ReleasePacker.installEntry, room.making]
  dsimp only
  rw [unpackEntry_eq, if_neg plainFile, making]
  have ending := makeRoom_spec plain made folder
  rw [making] at ending
  cases ending with
  | made place room addresses replaced leads =>
    obtain ⟨filled, after, writing, -, setting, -⟩ := exists_filled replaced leads entry.data
    dsimp only
    rw [writing, whole]
    dsimp only
    rw [if_pos rfl]
    dsimp only
    rw [setting]

end

end ReleasePacker
