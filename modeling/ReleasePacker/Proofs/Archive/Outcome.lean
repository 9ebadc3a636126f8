import ReleasePacker.Proofs.Archive
import ReleasePacker.Proofs.Digest
import ReleasePacker.Proofs.Naming
import ReleasePacker.Proofs.Release.Delivery

/-!
# What packing a folder comes to

Whatever a folder holds, packing it either puts an archive of all its regular files in place, which
a reader finds whole, or fails and says that the archive could not be written. Nothing is left half
done: besides folders that were missing on the way to the output folder, the archive is the only
difference, and after a failure it can be there only in the place of a symbolic link, through which
it could not be read back.
-/

namespace ReleasePacker

/-- A folder has each name once, and all of them can be a part of a path. -/
structure ProperEntries (children : List (String × Node)) : Prop where
  isName : ∀ name ∈ children.map Prod.fst, Path.IsName name
  nodup : (children.map Prod.fst).Nodup

/-- The content of the regular file that a folder with these entries holds under a name. -/
def contentUnder (children : List (String × Node)) (name : String) : Option Bytes :=
  match children.lookup name with
  | some (.file _ content) => some content
  | _ => none

/-- In an archive of a folder there is each of its regular files once, and a reader finds them in
order and with their contents. Its size must be one that a header can state. -/
structure ArchiveOf (children : List (String × Node)) (members : List String) (bytes : Bytes) :
    Prop where
  all : members.Perm (regularNames children)
  once : members.Nodup
  readable : bytes.length ≤ Tar.maxNumber → (archiveContents bytes).clean = true ∧
    ((archiveContents bytes).entries.map fun entry => (entry.path.text, some entry.data)) =
      members.map fun name => (name, contentUnder children name)

/-- The members of an archive that can be read are listed in their order. -/
theorem ArchiveOf.listMembers_eq {children : List (String × Node)} {members : List String}
    {bytes : Bytes} (archive : ArchiveOf children members bytes) {files : FileSystem} {path : Path}
    (content : files.contentOf path = .ok bytes) (small : bytes.length ≤ Tar.maxNumber) :
    listMembers files path = .ok members := by
  obtain ⟨clean, entries⟩ := archive.readable small
  have names := congrArg (List.map Prod.fst) entries
  rw [List.map_map, List.map_map] at names
  rw [listMembers, content]
  dsimp only
  rw [if_pos clean]
  exact congrArg Except.ok (names.trans (List.map_id members))

section

variable {platform : Platform} {files made after : FileSystem} {folder outputDir target : Path}
  {names : List String} {bytes : Bytes} {place : Location}

/-- What takes the archive's place is an archive of the folder. -/
theorem Written.archiveOf
    (written : Written platform files folder outputDir target names made bytes place after)
    (proper : ∀ location children, files.find folder = .ok (location, .folder children) →
      ProperEntries children) :
    ∃ location children, files.find folder = .ok (location, .folder children) ∧
      ArchiveOf children names bytes := by
  obtain ⟨location, children, found, rfl⟩ := topLevelFiles_eq_ok.mp written.listed
  obtain ⟨isName, nodup⟩ := proper location children found
  obtain ⟨unfinished, openFolder, openName, created, opened, archived⟩ := written.opened
  have listing := platform.listingOrder_perm (children.map Prod.fst)
  obtain ⟨packed, rfl, named, held⟩ := archiveBytes_spec found written.folders opened
    (fun name inside => isName name (listing.mem_iff.mp (List.mem_of_mem_filter inside)))
    (fun name inside => List.of_mem_filter inside) archived
  refine ⟨location, children, found, listing.filter _, (listing.nodup_iff.mpr nodup).filter _,
    fun small => ?_⟩
  rw [archiveContents_pack (fun member inside => (held member inside).2) small, ← named]
  refine ⟨rfl, ?_⟩
  rw [List.map_map, List.map_map]
  refine List.map_congr_left fun member inside => ?_
  rw [Function.comp_apply, Function.comp_apply, Tar.Member.path_entry, contentUnder,
    (held member inside).1]
  rfl

/-- The archive's place bears the archive's name. -/
theorem Written.exists_place {name : String} (plain : Path.IsName name)
    (written : Written platform files folder outputDir (outputDir / name) names made bytes place
      after) : ∃ front, place = front ++ [name] :=
  written.addresses.last_name (FileSystem.steps_join_name outputDir plain)

/-- Nothing in the packed folder is replaced, if the archive goes into a folder beside it. -/
theorem Written.entryAt_below {location : Location} {children : List (String × Node)}
    (written : Written platform files folder outputDir target names made bytes place after)
    (found : files.find folder = .ok (location, .folder children))
    (outside : ¬ location <+: place.dropLast) {below : Location} (inside : location <+: below) :
    after.entryAt below = made.entryAt below := by
  refine written.replaced.elsewhere below ?_
  rintro rfl
  have held : files.entryAt location = some .folder :=
    FileSystem.entryAt_of_get? (FileSystem.find_eq_ok.mp found).2
  -- The folder is not in the archive's place, as an archive does not take the place of a folder.
  have other : location ≠ below := by
    rintro rfl
    refine written.replaced.noFolder ?_
    rw [written.folders.kept (by rw [held]; exact nofun), held]
  rcases List.eq_nil_or_concat below with rfl | ⟨front, name, rfl⟩
  · exact other (List.prefix_nil.mp inside)
  · rw [List.concat_eq_append] at inside other outside
    rw [List.dropLast_concat] at outside
    exact (List.prefix_concat_iff.mp inside).elim other outside

/-- No file that is left has a name of an unfinished archive. -/
theorem Written.not_partial
    (written : Written platform files folder outputDir target names made bytes place after)
    {init : List FileSystem.Step} {final : String}
    (ends : FileSystem.steps target = init ++ [.enter final])
    (finalName : ¬ partialEnding.toList <:+ final.toList) {front : Location} {name : String}
    (ending : partialEnding.toList <:+ name.toList) :
    after.entryAt (front ++ [name]) = made.entryAt (front ++ [name]) := by
  refine written.replaced.elsewhere _ ?_
  rintro rfl
  obtain ⟨other, same⟩ := written.addresses.last_name ends
  cases (List.append_inj' same rfl).2
  exact finalName ending

end

/-- A folder that is made is no file. -/
theorem FoldersMade.of_file {paths : List Path} {before after : FileSystem} {location : Location}
    {mode : Nat} {content : Bytes} (made : FoldersMade paths before after)
    (held : after.entryAt location = some (.file mode content)) :
    before.entryAt location = some (.file mode content) := by
  rcases made.entryAt location with same | ⟨-, new, -⟩
  · rw [← same, held]
  · exact absurd (new.symm.trans held) nofun

/-- If packing a folder succeeds, the archive holds the regular files of the folder, each once and
as it was, its members are listed in their order, and its digest is stated. If it fails, the failure
is that of writing the archive, and no unfinished file is left. In both cases nothing else has
changed, in particular not in the packed folder, but for folders that were missing on the way to the
output folder, and there is a whole archive or none: after a failure there can be one only in the
place of a link. -/
theorem packArchive_whole_or_absent {σ : Type} (platform : Platform) (folder : StagingFolder)
    (name : ArchiveName) (outputDir : Path) (world : World σ)
    (plain : Path.IsName name.fileName)
    (proper : ∀ place children, world.files.find folder.path = .ok (place, .folder children) →
      ProperEntries children)
    (outside : ∀ place location, world.files.locate folder.path = .ok place →
      (world.files.makeFolders outputDir).2.Addresses (outputDir / name.fileName) location →
        ¬ place <+: location.dropLast) :
    let path := outputDir / name.fileName
    let before := world.files
    let ending := (packArchive platform folder name outputDir).perform world
    let after := ending.2.files
    (∀ archive, ending.1 = .ok archive →
      ∃ place children made front content,
        before.find folder.path = .ok (place, .folder children) ∧
        FoldersMade (FileSystem.ancestors outputDir) before made ∧
        made.Addresses path (front ++ [name.fileName]) ∧ archive.path = path ∧
        after.contentOf path = .ok content ∧ ArchiveOf children archive.members content ∧
        (content.length ≤ Tar.maxNumber → listMembers after path = .ok archive.members) ∧
        archive.sha256 = Sha256.hex (Sha256.digest content) ∧
        after.entryAt (front ++ [name.fileName]) = some (.file temporaryMode content) ∧
        (∀ location, location ≠ front ++ [name.fileName] →
          after.entryAt location = made.entryAt location) ∧
        ∀ location, place <+: location → after.entryAt location = made.entryAt location) ∧
    (∀ error, ending.1 = .error error →
      (∃ reason, error = .archiveWrite path reason) ∧
      (∀ front last mode content, partialEnding.toList <:+ last.toList →
        after.entryAt (front ++ [last]) = some (.file mode content) →
          before.entryAt (front ++ [last]) = some (.file mode content)) ∧
      ∃ made, FoldersMade (FileSystem.ancestors outputDir) before made ∧
        ∀ location, after.entryAt location = made.entryAt location ∨
          made.Addresses path location ∧ (∃ link, before.entryAt location = some (.link link)) ∧
          ∃ place children members content,
            before.find folder.path = .ok (place, .folder children) ∧
            after.entryAt location = some (.file temporaryMode content) ∧
            ArchiveOf children members content) := by
  intro path before ending after
  obtain ⟨init, final, ends, finalName⟩ := exists_steps_archive outputDir name
  have performed : ending = _ := perform_packArchive platform folder name outputDir world
  rcases packFiles_cases platform folder.path outputDir ends finalName world.files with
    ⟨reason, made, packing, folders⟩ | ⟨names, made, bytes, place, files, packing, written⟩
  · rw [packing] at performed
    simp only [after, performed, reduceCtorEq, false_imp_iff, implies_true, true_and]
    intro error same
    cases same
    exact ⟨⟨reason, rfl⟩, fun _ _ _ _ _ held => folders.of_file held, made, folders,
      fun _ => .inl rfl⟩
  rw [packing] at performed
  obtain ⟨base, children, found, whole⟩ := written.archiveOf proper
  have moves : FileSystem.steps (outputDir / name.fileName) ≠ [] := by
    rw [ends]
    simp
  rcases written.replaced.find written.addresses moves with read | ⟨⟨reason, unread⟩, link, there⟩
  · have content : files.contentOf (outputDir / name.fileName) = .ok bytes := by
      rw [FileSystem.contentOf, read]
    rw [content] at performed
    simp only [after, performed, Except.map, reduceCtorEq, false_imp_iff, implies_true, and_true]
    intro archive same
    cases same
    obtain ⟨front, rfl⟩ := written.exists_place plain
    have beside := outside base (front ++ [name.fileName])
      (FileSystem.locate_eq_ok.mpr (FileSystem.find_eq_ok.mp found).1)
      (by rw [written.making]; exact written.addresses)
    exact ⟨base, children, made, front, bytes, found, written.folders, written.addresses, rfl,
      content, whole, whole.listMembers_eq content, Sha256.ofContent_eq bytes,
      written.replaced.placed, written.replaced.elsewhere,
      fun _ => written.entryAt_below found beside⟩
  -- The archive took the place of a link and cannot be read back.
  · rw [unread] at performed
    simp only [after, performed, Except.map, reduceCtorEq, false_imp_iff, implies_true, true_and]
    intro error same
    cases same
    refine ⟨⟨reason, rfl⟩, fun front last mode content partialName held => ?_, made,
      written.folders, fun location => ?_⟩
    · rw [written.not_partial ends finalName partialName] at held
      exact written.folders.of_file held
    · by_cases here : location = place
      · subst here
        have before : world.files.entryAt location = some (.link link) := by
          rcases written.folders.entryAt location with same | ⟨-, new, -⟩
          · rw [← same, there]
          · cases new.symm.trans there
        exact .inr ⟨written.addresses, ⟨link, before⟩, base, children, names, bytes, found,
          written.replaced.placed, whole⟩
      · exact .inl (written.replaced.elsewhere location here)

/-- A folder with a file, a folder and a link, and beside it an empty one. -/
def mixedFolder : World Unit where
  files :=
    { root := .folder
        [("stage", .folder
          [("away", .link ⟨"one"⟩),
           ("one", .file 0o644 [49]),
           ("sub", .folder [("deep", .file 0o644 [50])])]),
         ("out", .folder [])] }
  outside := ()

/-- What the archive of that folder is named for. -/
def mixedName : ArchiveName := ⟨"kak-lsp", ⟨"2.0", by decide⟩, ⟨"aarch64-apple-darwin", by decide⟩⟩

theorem packArchive_whole_or_absent_mixed :
    let ending := (packArchive (ReleaseRun.obliged ⟨"/out"⟩).platform ⟨⟨"/stage"⟩, ["one"]⟩
      mixedName ⟨"/out"⟩).perform mixedFolder
    ∃ archive content, ending.1 = .ok archive ∧
      ending.2.files.contentOf archive.path = .ok content ∧
      archive.members = ["one"] ∧
      archive.sha256 = Sha256.hex (Sha256.digest content) := by
  intro ending
  have plain : Path.IsName mixedName.fileName := ArchiveName.isName_fileName (by decide)
  have found : mixedFolder.files.find ⟨"/stage"⟩ = .ok (["stage"], .folder
      [("away", .link ⟨"one"⟩), ("one", .file 0o644 [49]),
        ("sub", .folder [("deep", .file 0o644 [50])])]) := by rfl
  have free : (mixedFolder.files.makeFolders ⟨"/out"⟩).2.follow
      ((⟨"/out"⟩ : Path) / mixedName.fileName) false =
        .ok (.free ["out"] "kak-lsp-2.0-aarch64-apple-darwin.tar.gz" false) := by decide +kernel
  have succeeds : ending.1.toOption.isSome = true := by decide +kernel
  obtain ⟨packed, -⟩ := packArchive_whole_or_absent (ReleaseRun.obliged ⟨"/out"⟩).platform
    ⟨⟨"/stage"⟩, ["one"]⟩ mixedName ⟨"/out"⟩ mixedFolder plain (fun place children held => by
      cases found.symm.trans held
      refine ⟨fun name inside => ?_, by decide⟩
      simp only [List.map_cons, List.map_nil, List.mem_cons, List.not_mem_nil, or_false] at inside
      rcases inside with rfl | rfl | rfl
      · exact .of_mem (c := 'a') (by decide) (by decide) (by decide)
      · exact .of_mem (c := 'o') (by decide) (by decide) (by decide)
      · exact .of_mem (c := 's') (by decide) (by decide) (by decide))
    (fun place location located addresses => by
      cases (FileSystem.locate_eq_ok.mpr (FileSystem.find_eq_ok.mp found).1).symm.trans located
      rcases addresses with there | ⟨folder, name, new, rfl⟩
      · cases free.symm.trans there
      · cases free.symm.trans new
        decide)
  rcases answer : ending.1 with error | archive
  · rw [answer] at succeeds
    cases succeeds
  obtain ⟨place, children, made, front, content, held, -, -, path, read, whole, -, digest, -⟩ :=
    packed archive answer
  cases found.symm.trans held
  refine ⟨archive, content, rfl, path ▸ read, ?_, digest⟩
  exact List.perm_singleton.mp whole.all

/-- Where the path of the output folder steps back out of a folder that is missing, that folder is
made, and it may be a second new entry of the output folder. -/
theorem packArchive_steppingBack :
    let output : Path := ⟨"/out/sub/.."⟩
    let ending := (packArchive (ReleaseRun.obliged ⟨"/out"⟩).platform ⟨⟨"/stage"⟩, ["one"]⟩
      mixedName output).perform mixedFolder
    Path.IsName mixedName.fileName ∧ ending.1.isOk = true ∧
      mixedFolder.files.locate ⟨"/stage"⟩ = .ok ["stage"] ∧
      ending.2.files.locate output = .ok ["out"] ∧
      ending.2.files.locate (output / mixedName.fileName) = .ok ["out", mixedName.fileName] ∧
      mixedFolder.files.entryAt ["out", "sub"] = none ∧
      ending.2.files.entryAt ["out", "sub"] = some .folder := by
  refine ⟨ArchiveName.isName_fileName (by decide), ?_⟩
  decide +kernel

end ReleasePacker
