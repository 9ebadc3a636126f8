import ReleasePacker.Proofs.Staging

/-!
# What packing does to files

An archive is put together under a temporary name and then takes its place. So either nothing has
changed but for folders that were missing, or there is a whole archive in its place as well.

## Main definitions

* `FoldersMade` — some folders were made that were missing, and nothing else changed
* `FileSystem.Addresses` — a path leads to a place where something is or can be put
* `Replaced` — a file was put at a place, and nothing else changed
* `Written` — how an archive gets to its place

## Main results

* `FileSystem.makeFolders_spec` — making a folder and those above it
* `Replaced.find` — a file that was put somewhere is found there, unless a link stood there
* `writeArchive_spec`, `packFiles_cases`, `packFiles_spec` — the archive is in its place, or nothing
  was written
-/

namespace ReleasePacker

/-! ## Folders that are made -/

/-- Where something is different there was nothing, and now there is a folder that one of the paths
leads to. -/
structure FoldersMade (paths : List Path) (before after : FileSystem) : Prop where
  workingDirectory : after.workingDirectory = before.workingDirectory
  entryAt : ∀ location, after.entryAt location = before.entryAt location ∨
    before.entryAt location = none ∧ after.entryAt location = some .folder ∧
      ∃ path ∈ paths, after.locate path = .ok location

namespace FoldersMade

variable {paths more : List Path} {before middle after : FileSystem} {path : Path}

theorem refl (paths : List Path) (files : FileSystem) : FoldersMade paths files files :=
  ⟨rfl, fun _ => .inl rfl⟩

theorem of_sameEntries (same : before.SameEntries after) : FoldersMade paths before after :=
  ⟨same.workingDirectory, fun location => .inl (same.entryAt location)⟩

theorem kept (made : FoldersMade paths before after) {location : Location}
    (there : before.entryAt location ≠ none) : after.entryAt location = before.entryAt location :=
  (made.entryAt location).resolve_right fun new => there new.1

theorem mono (made : FoldersMade paths before after) (within : ∀ path ∈ paths, path ∈ more) :
    FoldersMade more before after :=
  ⟨made.workingDirectory, fun location => (made.entryAt location).imp_right
    fun ⟨nothing, folder, path, inside, leads⟩ =>
      ⟨nothing, folder, path, within path inside, leads⟩⟩

/-- A path that leads somewhere still does. -/
theorem follow (made : FoldersMade paths before after) {last : Bool} {location : Location}
    (leads : before.follow path last = .ok (.found location)) :
    after.follow path last = .ok (.found location) :=
  FileSystem.follow_of_kept leads made.workingDirectory fun _ there => .of_eq (made.kept there).symm

theorem trans (first : FoldersMade paths before middle) (second : FoldersMade paths middle after) :
    FoldersMade paths before after where
  workingDirectory := second.workingDirectory.trans first.workingDirectory
  entryAt location := by
    rcases second.entryAt location with same | ⟨nothing, folder, leads⟩
    · rcases first.entryAt location with old | ⟨nothing, folder, path, inside, leads⟩
      · exact .inl (same.trans old)
      · exact .inr ⟨nothing, same.trans folder, path, inside, FileSystem.locate_eq_ok.mpr
          (second.follow (FileSystem.locate_eq_ok.mp leads))⟩
    · rcases first.entryAt location with old | ⟨-, there, -⟩
      · exact .inr ⟨old.symm.trans nothing, folder, leads⟩
      · exact absurd (there.symm.trans nothing) nofun

theorem of_makeFolder (made : before.makeFolder path = .ok after) :
    FoldersMade [path] before after := by
  obtain ⟨folder, name, trailing, free, rfl⟩ := FileSystem.free_of_makeFolder made
  obtain ⟨inside, nothing⟩ := FileSystem.free_spec free
  refine ⟨rfl, fun location => ?_⟩
  by_cases below : folder ++ [name] <+: location
  · rw [FileSystem.entryAt_put inside, if_pos below,
      FileSystem.entryAt_eq_none_of_below nothing below]
    obtain ⟨back, rfl⟩ := below
    cases back with
    | nil =>
      rw [List.append_nil, List.drop_eq_nil_of_le (by simp)]
      exact .inr ⟨rfl, rfl, path, List.mem_singleton_self path, FileSystem.locate_eq_ok.mpr
        (FileSystem.follow_put free nofun (fun _ => rfl) nofun)⟩
    | cons other rest =>
      rw [List.drop_left' (by simp)]
      exact .inl rfl
  · exact .inl (FileSystem.entryAt_put_of_not_below folder name _ below)

end FoldersMade

namespace FileSystem

variable {files after : FileSystem} {path : Path}

theorem foldersMade_ensureFolder (made : files.ensureFolder path = .ok after) :
    FoldersMade [path] files after := by
  rw [ensureFolder] at made
  cases tried : files.makeFolder path with
  | ok result =>
    rw [tried] at made
    cases made
    exact .of_makeFolder tried
  | error error =>
    rw [tried] at made
    dsimp only at made
    split at made
    · cases made
      exact .refl _ _
    · cases made

theorem foldersMade_makeChain (files : FileSystem) (paths : List Path) :
    FoldersMade paths files (files.makeChain paths).2 := by
  induction paths with
  | nil => exact .refl _ _
  | cons path outer ih =>
    have first {made : FileSystem} (one : FoldersMade [path] files made) :
        FoldersMade (path :: outer) files made :=
      one.mono fun _ inside => List.mem_singleton.mp inside ▸ List.mem_cons_self
    rw [makeChain]
    cases tried : files.makeFolder path with
    | ok made => exact first (.of_makeFolder tried)
    | error error =>
      dsimp only
      split
      -- The folders above were missing: what was made of them stays, whatever comes of the rest.
      · have others := ih.mono fun _ inside => List.mem_cons_of_mem path inside
        rcases chain : files.makeChain outer with ⟨outerError | _, left⟩
        · rw [chain] at others
          exact others
        · rw [chain] at others
          dsimp only
          cases ensured : left.ensureFolder path with
          | error innerError => exact others
          | ok made =>
            exact others.trans ((foldersMade_ensureFolder ensured).mono fun _ inside =>
              List.mem_singleton.mp inside ▸ List.mem_cons_self)
      · split <;> exact .refl _ _

/-- Making a folder and those above it, also if it fails half way. -/
theorem makeFolders_spec (files : FileSystem) (path : Path) :
    FoldersMade (ancestors path) files (files.makeFolders path).2 :=
  foldersMade_makeChain files (ancestors path)

end FileSystem

/-! ## A file that is put in its place -/

/-- The paths that lead to a place where something is, or where something can be put. -/
def FileSystem.Addresses (files : FileSystem) (path : Path) (place : Location) : Prop :=
  files.follow path false = .ok (.found place) ∨
    ∃ folder name, files.follow path false = .ok (.free folder name false) ∧
      place = folder ++ [name]

/-- What a path that ends in a name addresses has that name. -/
theorem FileSystem.Addresses.last_name {files : FileSystem} {path : Path} {place : Location}
    (addresses : files.Addresses path place) {init : List FileSystem.Step} {name : String}
    (ends : FileSystem.steps path = init ++ [.enter name]) :
    ∃ folder, place = folder ++ [name] := by
  rcases addresses with found | ⟨folder, other, free, rfl⟩
  · obtain ⟨-, passed, leads⟩ := FileSystem.follow_eq_ok.mp found
    rw [ends] at leads
    obtain ⟨folder, ⟨same, -⟩ | same⟩ := leads.last_name
    · exact ⟨folder, FileSystem.Destination.found.inj same⟩
    · cases same
  · obtain ⟨-, passed, leads⟩ := FileSystem.follow_eq_ok.mp free
    rw [ends] at leads
    obtain ⟨other', ⟨same, -⟩ | same⟩ := leads.last_name
    · cases same
    · cases same
      exact ⟨folder, rfl⟩

/-- A file was put at a place where no folder was, and nothing else changed. -/
structure Replaced (before : FileSystem) (place : Location) (mode : Nat) (content : Bytes)
    (after : FileSystem) : Prop where
  noFolder : before.entryAt place ≠ some .folder
  workingDirectory : after.workingDirectory = before.workingDirectory
  placed : after.entryAt place = some (.file mode content)
  elsewhere : ∀ location, location ≠ place → after.entryAt location = before.entryAt location

namespace FileSystem

variable {files before after : FileSystem}

/-- Below what is no folder there is nothing. -/
theorem entryAt_of_ne_folder {front back : Location} (other : files.entryAt front ≠ some .folder)
    (below : back ≠ []) : files.entryAt (front ++ back) = none := by
  by_contra holds
  exact other (entryAt_of_append holds below)

theorem replaced_put {folder : Location} {name : String}
    (inside : files.entryAt folder = some .folder)
    (noFolder : files.entryAt (folder ++ [name]) ≠ some .folder) (mode : Nat) (content : Bytes) :
    Replaced files (folder ++ [name]) mode content
      (files.put folder name (.file mode content)) where
  noFolder := noFolder
  workingDirectory := rfl
  placed := by
    rw [entryAt_put inside, if_pos List.prefix_rfl, List.drop_eq_nil_of_le (by simp)]
    rfl
  elsewhere location other := by
    rw [entryAt_put inside]
    split
    next below =>
      obtain ⟨back, rfl⟩ := below
      cases back with
      | nil => exact absurd (List.append_nil _) other
      | cons next rest =>
        rw [List.drop_left' (by simp), entryAt_of_ne_folder noFolder (List.cons_ne_nil _ _)]
        rfl
    · rfl

end FileSystem

namespace Replaced

variable {before middle after : FileSystem} {path : Path} {place : Location} {mode : Nat}
  {content : Bytes}

theorem replace (replaced : Replaced before place mode content middle) (mode' : Nat)
    (content' : Bytes) :
    Replaced before place mode' content' (middle.replace place (.file mode' content')) where
  noFolder := replaced.noFolder
  workingDirectory := replaced.workingDirectory
  placed := by
    have there := FileSystem.get?_replace_append (FileSystem.get?_eq_file.mpr replaced.placed)
      (.file mode' content') []
    rw [List.append_nil, Node.get?_nil] at there
    exact FileSystem.entryAt_of_get? there
  elsewhere location other := by
    rw [← replaced.elsewhere location other]
    by_cases below : place <+: location
    · obtain ⟨back, rfl⟩ := below
      have proper : back ≠ [] := by
        rintro rfl
        exact other (List.append_nil _)
      have there := FileSystem.get?_replace_append (FileSystem.get?_eq_file.mpr replaced.placed)
        (.file mode' content') back
      have noFolder : middle.entryAt place ≠ some .folder := by
        rw [replaced.placed]
        exact nofun
      rw [FileSystem.entryAt_of_ne_folder noFolder proper, FileSystem.entryAt, Node.entryAt, there]
      cases back with
      | nil => exact absurd rfl proper
      | cons name rest => rfl
    · exact FileSystem.entryAt_replace_of_not_below place _ below

/-- Taking the file away again leaves everything as it was. -/
theorem sameEntries_erase (replaced : Replaced before place mode content after)
    (nothing : before.entryAt place = none) (proper : place ≠ []) :
    before.SameEntries (after.erase place) := by
  refine ⟨(FileSystem.workingDirectory_erase place).trans replaced.workingDirectory,
    fun location => ?_⟩
  rw [FileSystem.entryAt_erase proper]
  split
  next below => exact (FileSystem.entryAt_eq_none_of_below nothing below).symm
  next outside => exact replaced.elsewhere location fun same => outside (same ▸ List.prefix_rfl)

theorem of_sameEntries (same : before.SameEntries middle)
    (replaced : Replaced middle place mode content after) :
    Replaced before place mode content after where
  noFolder := by
    rw [← same.entryAt]
    exact replaced.noFolder
  workingDirectory := replaced.workingDirectory.trans same.workingDirectory
  placed := replaced.placed
  elsewhere location other := (replaced.elsewhere location other).trans (same.entryAt location)

theorem sameShape (replaced : Replaced before place mode content after) {location : Location}
    (other : location ≠ place) : FileSystem.SameShape before after location :=
  .of_eq (replaced.elsewhere location other).symm

theorem start_ne {last : Bool} {links : Nat} {here : Location} {path : List FileSystem.Step}
    {passed : List Location} {destination : FileSystem.Destination}
    (replaced : Replaced before place mode content after)
    (leads : FileSystem.Leads before last links here path passed destination)
    (moves : path ≠ []) : here ≠ place := by
  rintro rfl
  exact replaced.noFolder (leads.start_folder moves)

/-- A path that led somewhere still leads there, or it leads to the file. -/
theorem follow_eq {last : Bool} {location location' : Location}
    (replaced : Replaced before place mode content after)
    (leads : before.follow path last = .ok (.found location))
    (leads' : after.follow path last = .ok (.found location')) :
    location' = location ∨ location' = place := by
  obtain ⟨-, passed, leads⟩ := FileSystem.follow_eq_ok.mp leads
  obtain ⟨-, passed', leads'⟩ := FileSystem.follow_eq_ok.mp leads'
  rw [replaced.workingDirectory] at leads'
  by_cases moves : FileSystem.steps path = []
  · rw [moves] at leads leads'
    cases leads
    cases leads'
    exact .inl rfl
  · have ending := leads.of_replaced (replaced.sameShape (replaced.start_ne leads moves))
      (fun l _ => by
        by_cases other : l = place
        · exact .inr ⟨other, replaced.placed⟩
        · exact .inl (replaced.sameShape other)) leads'
    simpa only [FileSystem.Destination.found.injEq] using ending

/-- A path that led to a free name leads to the file that was put there. -/
theorem follow_free {last : Bool} {folder : Location} {name : String}
    (replaced : Replaced before (folder ++ [name]) mode content after)
    (free : before.follow path false = .ok (.free folder name false)) :
    after.follow path last = .ok (.found (folder ++ [name])) := by
  obtain ⟨accepted, passed, leads⟩ := FileSystem.follow_eq_ok.mp free
  have nothing := leads.free_spec.2
  refine FileSystem.follow_eq_ok.mpr ⟨accepted, passed ++ [folder ++ [name]], ?_⟩
  rw [replaced.workingDirectory]
  exact leads.of_free (fun l there => replaced.sameShape fun same => there (same ▸ nothing))
    replaced.placed (fun _ same => by cases same) (fun whole => by cases whole) nofun

/-- A path that led to another file leads to the one that was put in its place. -/
theorem follow_found (replaced : Replaced before place mode content after)
    (found : before.follow path false = .ok (.found place)) (moves : FileSystem.steps path ≠ [])
    (noLink : ∀ target, before.entryAt place ≠ some (.link target)) :
    after.follow path true = .ok (.found place) := by
  obtain ⟨accepted, passed, leads⟩ := FileSystem.follow_eq_ok.mp found
  have followed : FileSystem.Leads before true _ _ _ _ _ := leads.of_unfollowed noLink
  refine FileSystem.follow_eq_ok.mpr ⟨accepted, passed, ?_⟩
  rw [replaced.workingDirectory]
  refine followed.transfer (replaced.sameShape (replaced.start_ne leads moves)) (fun l member => ?_)
    fun _ _ _ vacant => by cases vacant
  by_cases other : l = place
  -- What was at the place is neither nothing nor a link nor a folder, so it was a file as well.
  · subst other
    have held := leads.passed_exists l member
    rcases kind : before.entryAt l with _ | entry
    · exact absurd kind held
    · cases entry with
      | file | broken =>
        rw [FileSystem.SameShape, kind, replaced.placed]
        rfl
      | link target => exact absurd kind (noLink target)
      | folder => exact absurd kind replaced.noFolder
  · exact replaced.sameShape other

/-- A path that addressed the place and can be followed leads to the file, whether links at its end
are followed or not. -/
theorem follow_place {location : Location} (replaced : Replaced before place mode content after)
    (addresses : before.Addresses path place)
    (leads : after.follow path true = .ok (.found location)) :
    after.follow path false = .ok (.found place) := by
  rcases addresses with found | ⟨folder, name, free, rfl⟩
  · obtain ⟨accepted, passed, leads⟩ := FileSystem.follow_eq_ok.mp leads
    obtain ⟨passed', location', unfollowed, -⟩ := leads.exists_unfollowed
    have ending := FileSystem.follow_eq_ok.mpr ⟨accepted, passed', unfollowed⟩
    obtain rfl := (or_self_iff.mp (replaced.follow_eq found ending))
    exact ending
  · exact replaced.follow_free free

theorem eq_place {location : Location} (replaced : Replaced before place mode content after)
    (addresses : before.Addresses path place)
    (leads : after.follow path true = .ok (.found location)) : location = place := by
  obtain ⟨-, passed, unfollowed⟩ :=
    FileSystem.follow_eq_ok.mp (replaced.follow_place addresses leads)
  obtain ⟨-, passed', leads⟩ := FileSystem.follow_eq_ok.mp leads
  exact FileSystem.Destination.found.inj (leads.unique (unfollowed.of_unfollowed
    fun target link => nomatch replaced.placed.symm.trans link))

/-- The file can be read through a path that addressed the place, unless a link stood there. -/
theorem find (replaced : Replaced before place mode content after)
    (addresses : before.Addresses path place) (moves : FileSystem.steps path ≠ []) :
    after.find path = .ok (place, .file mode content) ∨
      (∃ error, after.contentOf path = .error error) ∧
        ∃ target, before.entryAt place = some (.link target) := by
  have there := FileSystem.get?_eq_file.mpr replaced.placed
  by_cases link : ∃ target, before.entryAt place = some (.link target)
  · rcases found : after.find path with error | ⟨location, node⟩
    · exact .inr ⟨⟨error, by rw [FileSystem.contentOf, found]⟩, link⟩
    · obtain ⟨leads, held⟩ := FileSystem.find_eq_ok.mp found
      obtain rfl := replaced.eq_place addresses leads
      cases there.symm.trans held
      exact .inl rfl
  · refine .inl (FileSystem.find_eq_ok.mpr ⟨?_, there⟩)
    rcases addresses with found | ⟨folder, name, free, rfl⟩
    · exact replaced.follow_found found moves fun target held => link ⟨target, held⟩
    · exact replaced.follow_free free

/-- What a path that does not lead through the place addresses is the same afterwards. -/
theorem addresses_of_after {other : Location} (replaced : Replaced before place mode content after)
    (addresses : after.Addresses path other) (moves : FileSystem.steps path ≠ [])
    (different : other ≠ place) : before.Addresses path other := by
  -- No step leads on from a file, so a path through the place would have ended there.
  have back {destination : FileSystem.Destination}
      (leads : after.follow path false = .ok destination)
      (elsewhere : destination ≠ .found place)
      (vacancy : ∀ folder name trailing, destination = .free folder name trailing →
        before.entryAt (folder ++ [name]) = none) :
      before.follow path false = .ok destination := by
    obtain ⟨accepted, passed, leads⟩ := FileSystem.follow_eq_ok.mp leads
    rw [replaced.workingDirectory] at leads
    refine FileSystem.follow_eq_ok.mpr ⟨accepted, passed, leads.transfer ?_ ?_ vacancy⟩
    · refine (replaced.sameShape fun same => ?_).symm
      have inside := leads.start_folder moves
      rw [same, replaced.placed] at inside
      cases inside
    · refine fun l member => (replaced.sameShape fun same => ?_).symm
      subst same
      exact elsewhere (leads.of_file_passed member replaced.placed nofun nofun)
  rcases addresses with found | ⟨folder, name, free, rfl⟩
  · exact .inl (back found (fun same => different (FileSystem.Destination.found.inj same)) nofun)
  · refine .inr ⟨folder, name, back free nofun fun _ _ _ same => ?_, rfl⟩
    cases same
    rw [← replaced.elsewhere _ different]
    exact (FileSystem.free_spec free).2

end Replaced

/-! ## Writing an archive -/

/-- The path of an unfinished archive ends in a name of its own kind. -/
theorem exists_steps_partial (base : Path) (unique : String) :
    ∃ init name, FileSystem.steps (base / (partialFront ++ unique ++ partialEnding)) =
        init ++ [.enter name] ∧ partialEnding.toList <:+ name.toList := by
  obtain ⟨front, text⟩ := Path.exists_join_text base ⟨partialFront ++ unique ++ partialEnding⟩
  rw [String.toList_append, ← List.append_assoc] at text
  exact FileSystem.exists_steps_eq_concat _ text (by decide) ⟨'p', by decide, by decide⟩

/-- A new file at a place where nothing was, to which a path leads. -/
structure Opened (before : FileSystem) (path : Path) (folder : Location) (name : String)
    (after : FileSystem) : Prop where
  partialName : partialEnding.toList <:+ name.toList
  nothing : before.entryAt (folder ++ [name]) = none
  replaced : Replaced before (folder ++ [name]) temporaryMode [] after
  leads : ∀ last, after.follow path last = .ok (.found (folder ++ [name]))

/-- An archive is begun under a name that nothing has. -/
theorem opened_of_makeTemporary {platform : Platform} {files created : FileSystem}
    {outputDir path : Path}
    (made : files.makeTemporary platform.uniqueText
      (fun files path => files.createNew path temporaryMode) outputDir partialFront partialEnding =
        .ok (path, created)) :
    ∃ folder name, Opened files path folder name created := by
  obtain ⟨attempt, rfl, creating⟩ := FileSystem.makeTemporary_eq_ok made
  obtain ⟨folder, name, free, rfl⟩ := FileSystem.createNew_eq_ok.mp creating
  obtain ⟨inside, nothing⟩ := FileSystem.free_spec free
  obtain ⟨init, last, ends, ending⟩ :=
    exists_steps_partial (files.temporaryBase outputDir) (platform.uniqueText attempt)
  obtain ⟨-, passed, leads⟩ := FileSystem.follow_eq_ok.mp free
  rw [ends] at leads
  obtain ⟨_, ⟨same, -⟩ | same⟩ := leads.last_name
  · cases same
  · cases same
    exact ⟨folder, name, ending, nothing,
      FileSystem.replaced_put inside (by rw [nothing]; exact nofun) _ _,
      fun _ => FileSystem.follow_put free nofun nofun nofun⟩

namespace Opened

variable {before after : FileSystem} {path : Path} {folder : Location} {name : String}

theorem held (opened : Opened before path folder name after) :
    after.root.get? (folder ++ [name]) = some (.file temporaryMode []) :=
  FileSystem.get?_eq_file.mpr opened.replaced.placed

/-- Taking it away again leaves no trace. -/
theorem removeFile (opened : Opened before path folder name after) :
    ∃ files, after.removeFile path = .ok files ∧ before.SameEntries files :=
  ⟨after.erase (folder ++ [name]),
    FileSystem.removeFile_eq_ok.mpr ⟨folder ++ [name], .file temporaryMode [],
      FileSystem.find_eq_ok.mpr ⟨opened.leads false, opened.held⟩, nofun, rfl⟩,
    opened.replaced.sameEntries_erase opened.nothing (by simp)⟩

theorem writeFile (opened : Opened before path folder name after) (bytes : Bytes) :
    after.writeFile path bytes =
      .ok (after.replace (folder ++ [name]) (.file temporaryMode bytes)) :=
  FileSystem.writeFile_eq_ok.mpr (.inl ⟨_, _, _, opened.leads true, opened.held, rfl, rfl⟩)

/-- Once it is written it takes the place that its final name stands for. -/
theorem rename (opened : Opened before path folder name after) {target : Path}
    {init : List FileSystem.Step} {final : String}
    (ends : FileSystem.steps target = init ++ [.enter final])
    (finalName : ¬ partialEnding.toList <:+ final.toList) {bytes : Bytes} {files : FileSystem}
    (renamed : (after.replace (folder ++ [name]) (.file temporaryMode bytes)).rename path target =
      .ok files) :
    ∃ place, before.Addresses target place ∧
      Replaced before place temporaryMode bytes files := by
  have written := opened.replaced.replace temporaryMode bytes
  -- The final name is another one, so the final place is another place.
  have different {place : Location} (addresses : FileSystem.Addresses
      (after.replace (folder ++ [name]) (.file temporaryMode bytes)) target place) :
      place ≠ folder ++ [name] := by
    rintro rfl
    obtain ⟨other, same⟩ := addresses.last_name ends
    cases (List.append_inj' same rfl).2
    exact finalName opened.partialName
  have moves : FileSystem.steps target ≠ [] := by
    rw [ends]
    simp
  obtain ⟨location, node, found, ways⟩ := FileSystem.rename_eq_ok.mp renamed
  have leads : (after.replace (folder ++ [name]) (.file temporaryMode bytes)).follow path false =
      .ok (.found (folder ++ [name])) :=
    FileSystem.follow_of_kept (opened.leads false) rfl
      fun l _ => FileSystem.sameShape_replace opened.held temporaryMode bytes l
  obtain ⟨leads', held⟩ := FileSystem.find_eq_ok.mp found
  cases leads.symm.trans leads'
  cases (FileSystem.get?_eq_file.mpr written.placed).symm.trans held
  -- Without the unfinished file everything is as before, and there the final one is put.
  have cleared := written.sameEntries_erase opened.nothing (by simp)
  have put {front : Location} {last : String} (inside : before.entryAt front = some .folder)
      (noFolder : before.entryAt (front ++ [last]) ≠ some .folder) :=
    Replaced.of_sameEntries cleared (FileSystem.replaced_put ((cleared.entryAt front).trans inside)
      (by rwa [cleared.entryAt]) temporaryMode bytes)
  rcases ways with ⟨front, last, free, rfl⟩ | ⟨found, rfl⟩ | ⟨front, last, other, -, found, there,
    noFolder, rfl⟩
  · have addresses : FileSystem.Addresses _ target (front ++ [last]) :=
      .inr ⟨front, last, free, rfl⟩
    have elsewhere := different addresses
    obtain ⟨inside, nothing⟩ := FileSystem.free_spec free
    refine ⟨_, written.addresses_of_after addresses moves elsewhere, put ?_ ?_⟩
    · rw [← written.elsewhere front, inside]
      rintro rfl
      exact absurd (written.placed.symm.trans inside) nofun
    · rw [← written.elsewhere _ elsewhere, nothing]
      exact nofun
  · exact absurd rfl (different (.inl found))
  · have elsewhere := different (.inl found)
    have held := FileSystem.entryAt_of_get? there
    rw [written.elsewhere _ elsewhere] at held
    refine ⟨_, written.addresses_of_after (.inl found) moves elsewhere, put ?_ ?_⟩
    · exact FileSystem.entryAt_of_concat (by rw [held]; exact nofun)
    · rw [held]
      exact fun same => noFolder (Option.some.inj same)

end Opened

/-- The archive is in its place, or nothing is left of the attempt. -/
theorem writeArchive_spec (platform : Platform) (folder : Path) (names : List String)
    (outputDir : Path) {target : Path} {init : List FileSystem.Step} {name : String}
    (ends : FileSystem.steps target = init ++ [.enter name])
    (finalName : ¬ partialEnding.toList <:+ name.toList) (files : FileSystem) :
    (∃ error after, writeArchive platform folder names outputDir target files =
        (.error error, after) ∧ files.SameEntries after) ∨
    ∃ unfinished openFolder openName created bytes place after,
      writeArchive platform folder names outputDir target files = (.ok (), after) ∧
      Opened files unfinished openFolder openName created ∧
      archiveBytes created folder names = .ok bytes ∧
      files.Addresses target place ∧ Replaced files place temporaryMode bytes after := by
  unfold writeArchive
  generalize made : files.makeTemporary platform.uniqueText
    (fun files path => files.createNew path temporaryMode) outputDir partialFront partialEnding =
      result
  rcases result with error | ⟨path, created⟩
  · exact .inl ⟨error, files, rfl, rfl, fun _ => rfl⟩
  obtain ⟨openFolder, openName, opened⟩ := opened_of_makeTemporary made
  dsimp only
  split
  next after finished =>
    cases archived : archiveBytes created folder names with
    | error error =>
      rw [archived] at finished
      cases finished
    | ok bytes =>
      rw [archived] at finished
      change (created.writeFile path bytes >>= _) = _ at finished
      rw [opened.writeFile] at finished
      obtain ⟨place, addresses, replaced⟩ := opened.rename ends finalName finished
      exact .inr ⟨path, openFolder, openName, created, bytes, place, after, rfl, opened, archived,
        addresses, replaced⟩
  next error finished =>
    obtain ⟨after, removed, same⟩ := opened.removeFile
    rw [removed]
    exact .inl ⟨error, after, rfl, same⟩

/-! ## Packing a folder -/

/-- How an archive gets to its place: the files are listed, missing folders are made, the archive is
put together in a new file beside its place, and then it takes this place. -/
structure Written (platform : Platform) (files : FileSystem) (folder outputDir target : Path)
    (names : List String) (made : FileSystem) (bytes : Bytes) (place : Location)
    (after : FileSystem) : Prop where
  listed : topLevelFiles platform files folder = .ok names
  making : files.makeFolders outputDir = (.ok (), made)
  opened : ∃ unfinished openFolder openName created,
    Opened made unfinished openFolder openName created ∧
      archiveBytes created folder names = .ok bytes
  addresses : made.Addresses target place
  replaced : Replaced made place temporaryMode bytes after

theorem Written.folders {platform : Platform} {files made after : FileSystem}
    {folder outputDir target : Path} {names : List String} {bytes : Bytes} {place : Location}
    (written : Written platform files folder outputDir target names made bytes place after) :
    FoldersMade (FileSystem.ancestors outputDir) files made := by
  have folders := files.makeFolders_spec outputDir
  rwa [written.making] at folders

/-- Packing writes nothing, or the archive gets to its place and is read back. -/
theorem packFiles_cases (platform : Platform) (folder outputDir : Path) {target : Path}
    {init : List FileSystem.Step} {name : String}
    (ends : FileSystem.steps target = init ++ [.enter name])
    (finalName : ¬ partialEnding.toList <:+ name.toList) (files : FileSystem) :
    (∃ error made, packFiles platform folder outputDir target files = (.error error, made) ∧
      FoldersMade (FileSystem.ancestors outputDir) files made) ∨
    ∃ names made bytes place after,
      packFiles platform folder outputDir target files =
        ((after.contentOf target).map fun content => (names, Sha256.ofContent content), after) ∧
      Written platform files folder outputDir target names made bytes place after := by
  unfold packFiles
  cases listed : topLevelFiles platform files folder with
  | error error => exact .inl ⟨error, files, rfl, .refl _ _⟩
  | ok names =>
    have folders := files.makeFolders_spec outputDir
    rcases making : files.makeFolders outputDir with ⟨error | _, made⟩
    · rw [making] at folders
      exact .inl ⟨error, made, rfl, folders⟩
    · rw [making] at folders
      dsimp only
      rcases writeArchive_spec platform folder names outputDir ends finalName made with
        ⟨error, after, writing, same⟩ | ⟨unfinished, openFolder, openName, created, bytes, place,
          after, writing, opened, archived, addresses, replaced⟩
      · rw [writing]
        exact .inl ⟨error, after, rfl, folders.trans (.of_sameEntries same)⟩
      · rw [writing]
        refine .inr ⟨names, made, bytes, place, after, ?_, listed, making,
          ⟨unfinished, openFolder, openName, created, opened, archived⟩, addresses, replaced⟩
        dsimp only
        cases after.contentOf target <;> rfl

/-- The ways in which packing ends. -/
inductive PackEnding (platform : Platform) (files : FileSystem) (folder outputDir target : Path) :
    Except IoError (List String × String) × FileSystem → Prop
  /-- Nothing was written. -/
  | unwritten (error : IoError) (made : FileSystem)
    (folders : FoldersMade (FileSystem.ancestors outputDir) files made) :
    PackEnding platform files folder outputDir target (.error error, made)
  /-- The archive took the place of a link through which its path leads. -/
  | unreadable (error : IoError) (made : FileSystem) (place : Location) (link : Path)
    (bytes : Bytes) (after : FileSystem)
    (folders : FoldersMade (FileSystem.ancestors outputDir) files made)
    (addresses : made.Addresses target place)
    (there : made.entryAt place = some (.link link))
    (replaced : Replaced made place temporaryMode bytes after)
    (unread : after.contentOf target = .error error) :
    PackEnding platform files folder outputDir target (.error error, after)
  /-- The archive is in its place. -/
  | packed (names : List String) (made : FileSystem) (unfinished : Path) (openFolder : Location)
    (openName : String) (created : FileSystem) (bytes : Bytes) (place : Location)
    (after : FileSystem) (listed : topLevelFiles platform files folder = .ok names)
    (folders : FoldersMade (FileSystem.ancestors outputDir) files made)
    (opened : Opened made unfinished openFolder openName created)
    (archived : archiveBytes created folder names = .ok bytes)
    (addresses : made.Addresses target place)
    (replaced : Replaced made place temporaryMode bytes after)
    (found : after.find target = .ok (place, .file temporaryMode bytes)) :
    PackEnding platform files folder outputDir target
      (.ok (names, Sha256.ofContent bytes), after)

theorem packFiles_spec (platform : Platform) (folder outputDir : Path) {target : Path}
    {init : List FileSystem.Step} {name : String}
    (ends : FileSystem.steps target = init ++ [.enter name])
    (finalName : ¬ partialEnding.toList <:+ name.toList) (files : FileSystem) :
    PackEnding platform files folder outputDir target
      (packFiles platform folder outputDir target files) := by
  rcases packFiles_cases platform folder outputDir ends finalName files with
    ⟨error, made, ending, folders⟩ | ⟨names, made, bytes, place, after, ending, written⟩
  · rw [ending]
    exact .unwritten error made folders
  · rw [ending]
    obtain ⟨unfinished, openFolder, openName, created, opened, archived⟩ := written.opened
    have moves : FileSystem.steps target ≠ [] := by
      rw [ends]
      simp
    -- Reading the archive back can only fail where a link stood.
    rcases written.replaced.find written.addresses moves with found | ⟨⟨error, unread⟩, link, there⟩
    · have read : after.contentOf target = .ok bytes := by rw [FileSystem.contentOf, found]
      rw [read]
      exact .packed names made unfinished openFolder openName created bytes place after
        written.listed written.folders opened archived written.addresses written.replaced found
    · rw [unread]
      exact .unreadable error made place link bytes after written.folders written.addresses there
        written.replaced unread

namespace PackEnding

variable {platform : Platform} {start files : FileSystem} {folder outputDir target : Path}
  {ended : Except IoError (List String × String) × FileSystem} {place : Location}
  {members : List Tar.Member}

/-- What is removed after packing is the staging folder. -/
theorem eq_erase (ending : PackEnding platform files folder outputDir target ended)
    (staged : Staged start folder place members files) {after : FileSystem}
    (removed : ended.2.removeTree folder = .ok after) : after = ended.2.erase place := by
  have leads := FileSystem.locate_eq_ok.mp (staged.leads false)
  obtain ⟨location, node, found, noFile, rfl⟩ := FileSystem.removeTree_eq_ok.mp removed
  obtain ⟨leads', there⟩ := FileSystem.find_eq_ok.mp found
  -- The path leads to the folder or to the archive, and a file is not removed as a tree.
  have replacing {made after : FileSystem} {other : Location} {bytes : Bytes}
      (folders : FoldersMade (FileSystem.ancestors outputDir) files made)
      (replaced : Replaced made other temporaryMode bytes after)
      (leads' : after.follow folder false = .ok (.found location))
      (there : after.root.get? location = some node) : location = place := by
    rcases replaced.follow_eq (folders.follow leads) leads' with same | rfl
    · exact same
    · have file := FileSystem.get?_eq_file.mpr replaced.placed
      obtain rfl := Option.some.inj (there.symm.trans file)
      cases noFile
  have same : location = place := by
    cases ending with
    | unwritten error made folders =>
      cases (folders.follow leads).symm.trans leads'
      rfl
    | unreadable error made other link bytes after folders _ _ replaced _ =>
      exact replacing folders replaced leads' there
    | packed names made unfinished openFolder openName created bytes other after _ folders _ _ _
        replaced _ =>
      exact replacing folders replaced leads' there
  rw [same]

end PackEnding

/-- The path of an archive ends in a name of its own kind. -/
theorem exists_steps_archive (outputDir : Path) (archive : ArchiveName) :
    ∃ init name, FileSystem.steps (outputDir / archive.fileName) = init ++ [.enter name] ∧
      ¬ partialEnding.toList <:+ name.toList := by
  obtain ⟨front, text⟩ := Path.exists_join_text outputDir ⟨archive.fileName⟩
  rw [ArchiveName.fileName, String.toList_append, ← List.append_assoc] at text
  obtain ⟨init, name, ends, ending⟩ :=
    FileSystem.exists_steps_eq_concat (outputDir / archive.fileName) text (by decide)
      ⟨'t', by decide, by decide⟩
  refine ⟨init, name, ends, fun other => ?_⟩
  -- Of two endings of one name one would end the other.
  have both := List.suffix_or_suffix_of_suffix ending other
  exact absurd both (by decide)

/-! ## Packing as a part of a run -/

section

variable {σ : Type}

theorem perform_packArchive (platform : Platform) (folder : StagingFolder) (name : ArchiveName)
    (outputDir : Path) (world : World σ) :
    (packArchive platform folder name outputDir).perform world =
      match packFiles platform folder.path outputDir (outputDir / name.fileName) world.files with
      | (.ok (members, sha256), files) =>
        (.ok ⟨outputDir / name.fileName, members, sha256⟩, { world with files })
      | (.error error, files) =>
        (.error (.archiveWrite (outputDir / name.fileName) error), { world with files }) := rfl

theorem onlyTells_packArchive (platform : Platform) (folder : StagingFolder) (name : ArchiveName)
    (outputDir : Path) :
    (packArchive platform folder name outputDir : Task σ ReleaseArchive).OnlyTells := by
  refine .of_events_eq fun world => ?_
  rw [perform_packArchive]
  rcases packFiles platform folder.path outputDir (outputDir / name.fileName) world.files
    with ⟨_ | _, _⟩ <;> exact ⟨rfl, rfl⟩

end

end ReleasePacker
