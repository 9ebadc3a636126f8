import Mathlib.Data.List.Nodup
import Mathlib.Data.List.Perm.Subperm
import ReleasePacker.Proofs.Gzip
import ReleasePacker.Proofs.Packing
import ReleasePacker.Proofs.Tar.RoundTrip

/-!
# What an archive of a folder holds

The files of a folder are listed in some order, each is read under its name, and they are written
one after another. The folders and the temporary file that packing makes in between are not in the
way. So the archive holds the regular files that are directly in the folder, which for a staging
folder are the files that were staged, and a reader finds them.
-/

namespace ReleasePacker

/-! ## The files of a folder -/

/-- Whether a folder with these entries holds a regular file under a name. -/
def holdsFile (children : List (String × Node)) (name : String) : Bool :=
  match children.lookup name with
  | some node => node.isFile
  | none => false

/-- The names of the regular files among the entries of a folder. -/
def regularNames (children : List (String × Node)) : List String :=
  (children.map Prod.fst).filter (holdsFile children)

theorem holdsFile_eq_true {children : List (String × Node)} {name : String} :
    holdsFile children name = true ↔
      ∃ node opened, children.lookup name = some node ∧ node.reading = some opened := by
  rw [holdsFile]
  cases children.lookup name <;> simp [Node.isFile, Option.isSome_iff_exists]

section

variable {files made created : FileSystem} {path unfinished : Path} {place openFolder : Location}
  {children : List (String × Node)} {paths : List Path} {openName : String}

/-- What is listed of a folder is its regular files, in the order of the listing. -/
theorem topLevelFiles_eq_ok {platform : Platform} {names : List String} :
    topLevelFiles platform files path = .ok names ↔
      ∃ place children, files.find path = .ok (place, .folder children) ∧
        names = (platform.listingOrder (children.map Prod.fst)).filter (holdsFile children) := by
  rw [topLevelFiles, FileSystem.listFolder]
  rcases files.find path with error | ⟨place, node⟩
  · simp
  · cases node with
    | file | broken | link => simp
    | folder children =>
      constructor
      · intro listed
        cases listed
        exact ⟨place, children, rfl, rfl⟩
      · rintro ⟨_, _, same, rfl⟩
        cases same
        rfl

/-- The new folders and the unfinished archive are in no place where something was. -/
theorem Opened.entryAt_eq (opened : Opened made unfinished openFolder openName created)
    (folders : FoldersMade paths files made) {location : Location}
    (there : files.entryAt location ≠ none) :
    created.entryAt location = files.entryAt location := by
  have same := folders.kept there
  rw [opened.replaced.elsewhere, same]
  rintro rfl
  exact there (same.symm.trans opened.nothing)

variable (found : files.find path = .ok (place, .folder children))
  (folders : FoldersMade paths files made)
  (opened : Opened made unfinished openFolder openName created)
include found folders opened

/-- A regular file of a folder that can be read is read as it was, also when the archive is open. -/
theorem memberOf_spec {name : String} {node : Node} {whole : Reading} (plain : Path.IsName name)
    (held : children.lookup name = some node) (regular : node.reading = some whole)
    {read : Tar.Member} (reading : memberOf created path name = .ok read) :
    read.name = name ∧ node = .file read.mode read.content ∧ '\x00' ∉ name.toList := by
  obtain ⟨leads, folder⟩ := FileSystem.find_eq_ok.mp found
  have leaf := node.leaf_of_reading regular
  have file : files.entryAt (place ++ [name]) = some node.entry := by
    rw [← FileSystem.get?_eq_leaf leaf, Node.get?_concat, folder]
    exact held
  have file' : created.entryAt (place ++ [name]) = some node.entry := by
    rw [opened.entryAt_eq folders (by rw [file]; exact nofun), file]
  have base : created.locate path = .ok place :=
    FileSystem.locate_eq_ok.mpr (FileSystem.follow_of_kept leads
      (opened.replaced.workingDirectory.trans folders.workingDirectory)
      fun _ there => .of_eq (opened.entryAt_eq folders there).symm)
  unfold memberOf at reading
  split at reading
  next location mode' content' found' =>
    obtain ⟨leads', held'⟩ := FileSystem.find_eq_ok.mp found'
    obtain ⟨-, ⟨free, -⟩ | ⟨same, -⟩ | ⟨target, link⟩⟩ := FileSystem.follow_join plain base leads'
    · cases free
    -- The path leads to the file, and the system has accepted its text.
    · cases same
      rw [← FileSystem.get?_eq_leaf leaf, held'] at file'
      cases file'
      cases reading
      obtain ⟨accepted, -⟩ := FileSystem.follow_eq_ok.mp leads'
      obtain ⟨front, text⟩ := Path.exists_join_text path ⟨name⟩
      refine ⟨rfl, rfl, fun zero => (FileSystem.checkPath_eq_ok.mp accepted).1 ?_⟩
      change '\x00' ∈ (path.join ⟨name⟩).text.toList
      rw [text]
      exact List.mem_append_right front zero
    · rw [file'] at link
      cases node with
      | file | broken | folder => cases link
      | link => cases regular
  next => cases reading
  next => cases reading
  next => cases reading

/-- The files that are read under names of regular files are these files, in that order. -/
theorem mapM_memberOf_spec {names : List String} (plain : ∀ name ∈ names, Path.IsName name)
    (regular : ∀ name ∈ names, holdsFile children name = true) {packed : List Tar.Member}
    (reading : names.mapM (memberOf created path) = .ok packed) :
    packed.map Tar.Member.name = names ∧
      ∀ member ∈ packed, children.lookup member.name = some (.file member.mode member.content) ∧
        '\x00' ∉ member.name.toList := by
  induction names generalizing packed with
  | nil =>
    cases reading
    exact ⟨rfl, by simp⟩
  | cons name rest ih =>
    rw [List.forall_mem_cons] at plain regular
    obtain ⟨node, whole, held, readable⟩ := holdsFile_eq_true.mp regular.1
    rw [List.mapM_cons] at reading
    rcases first : memberOf created path name with error | read
    · rw [first] at reading
      cases reading
    · rcases others : rest.mapM (memberOf created path) with error | more
      · rw [first, others] at reading
        cases reading
      · rw [first, others] at reading
        cases reading
        obtain ⟨rfl, rfl, nonzero⟩ :=
          memberOf_spec found folders opened plain.1 held readable first
        obtain ⟨names, all⟩ := ih plain.2 regular.2 others
        exact ⟨by rw [List.map_cons, names], List.forall_mem_cons.mpr ⟨⟨held, nonzero⟩, all⟩⟩

/-- The archive is written from regular files of the folder, in the order of their names. -/
theorem archiveBytes_spec {names : List String} (plain : ∀ name ∈ names, Path.IsName name)
    (regular : ∀ name ∈ names, holdsFile children name = true) {bytes : Bytes}
    (archived : archiveBytes created path names = .ok bytes) :
    ∃ packed : List Tar.Member, bytes = Gzip.pack (Tar.write packed) ∧
      packed.map Tar.Member.name = names ∧
      ∀ member ∈ packed, children.lookup member.name = some (.file member.mode member.content) ∧
        '\x00' ∉ member.name.toList := by
  rw [archiveBytes] at archived
  rcases reading : names.mapM (memberOf created path) with error | packed
  · rw [reading] at archived
    cases archived
  · rw [reading] at archived
    cases archived
    exact ⟨packed, rfl, mapM_memberOf_spec found folders opened plain regular reading⟩

end

/-! ## The files of a staging folder -/

theorem lookup_node_of_mem {members : List Tar.Member} (nodup : (members.map Tar.Member.name).Nodup)
    {member : Tar.Member} (inside : member ∈ members) :
    (members.map Tar.Member.node).lookup member.name =
      some (.file member.mode member.content) := by
  induction members with
  | nil => cases inside
  | cons head rest ih =>
    rw [List.map_cons, List.nodup_cons] at nodup
    rw [List.map_cons, Tar.Member.node]
    rcases List.mem_cons.mp inside with rfl | later
    · exact List.lookup_cons_self
    · have different : member.name ≠ head.name := fun same =>
        nodup.1 (List.mem_map.mpr ⟨member, later, same⟩)
      rw [List.lookup_cons, beq_false_of_ne different]
      exact ih nodup.2 later

namespace Staged

variable {start files made created : FileSystem} {path unfinished : Path} {place : Location}
  {members : List Tar.Member}

theorem find (staged : Staged start path place members files) :
    files.find path = .ok (place, .folder (members.map Tar.Member.node)) :=
  FileSystem.find_eq_ok.mpr ⟨FileSystem.locate_eq_ok.mp (staged.leads true), staged.folder⟩

/-- All that is staged is regular files. -/
theorem holdsFile_of_mem (nodup : (members.map Tar.Member.name).Nodup) {name : String}
    (inside : name ∈ members.map Tar.Member.name) :
    holdsFile (members.map Tar.Member.node) name = true := by
  obtain ⟨member, staged, rfl⟩ := List.mem_map.mp inside
  exact holdsFile_eq_true.mpr ⟨_, _, lookup_node_of_mem nodup staged, rfl⟩

/-- All staged files are listed, each once. -/
theorem topLevelFiles_eq (staged : Staged start path place members files)
    (nodup : (members.map Tar.Member.name).Nodup) (platform : Platform) :
    topLevelFiles platform files path =
      .ok (platform.listingOrder (members.map Tar.Member.name)) := by
  refine topLevelFiles_eq_ok.mpr ⟨place, _, staged.find, ?_⟩
  have names : (members.map Tar.Member.node).map Prod.fst = members.map Tar.Member.name := by
    rw [List.map_map]
    rfl
  rw [names, List.filter_eq_self.mpr fun name listed =>
    holdsFile_of_mem nodup ((platform.listingOrder_perm _).mem_iff.mp listed)]

/-- The archive is written from the staged files, in the order in which they were listed. -/
theorem archiveBytes_spec (staged : Staged start path place members files)
    (nodup : (members.map Tar.Member.name).Nodup)
    (plain : ∀ member ∈ members, Path.IsName member.name) {paths : List Path}
    (folders : FoldersMade paths files made) {openFolder : Location} {openName : String}
    (opened : Opened made unfinished openFolder openName created) {names : List String}
    (listed : names.Perm (members.map Tar.Member.name)) {bytes : Bytes}
    (archived : archiveBytes created path names = .ok bytes) :
    ∃ packed : List Tar.Member, bytes = Gzip.pack (Tar.write packed) ∧
      packed.map Tar.Member.name = names ∧ packed.Perm members ∧
      ∀ member ∈ packed, '\x00' ∉ member.name.toList := by
  have plainNames : ∀ name ∈ names, Path.IsName name := by
    intro name inside
    obtain ⟨member, staged, rfl⟩ := List.mem_map.mp (listed.mem_iff.mp inside)
    exact plain member staged
  obtain ⟨packed, rfl, named, all⟩ := ReleasePacker.archiveBytes_spec staged.find folders opened
    plainNames (fun name inside => holdsFile_of_mem nodup (listed.mem_iff.mp inside)) archived
  have inside : ∀ member ∈ packed, member ∈ members := by
    intro member read
    have among : member.name ∈ names := named ▸ List.mem_map_of_mem read
    obtain ⟨other, staged, same⟩ := List.mem_map.mp (listed.mem_iff.mp among)
    have held := (all member read).1
    rw [← same, lookup_node_of_mem nodup staged, Option.some.injEq, Node.file.injEq] at held
    have whole : member = other := by
      cases member
      cases other
      simp_all
    exact whole ▸ staged
  -- As many files as were staged, all of them staged and none twice: so it is these files.
  have distinct : packed.Nodup := by
    refine List.Nodup.of_map Tar.Member.name ?_
    rw [named]
    exact listed.nodup_iff.mpr nodup
  have length : packed.length = members.length := by
    have same := listed.length_eq
    rwa [← named, List.length_map, List.length_map] at same
  exact ⟨packed, rfl, named, (List.subperm_of_subset distinct inside).perm_of_length_le length.ge,
    fun member read => (all member read).2⟩

end Staged

/-! ## Reading an archive -/

theorem length_write_le_pack (members : List Tar.Member) :
    (Tar.write members).length ≤ (Gzip.pack (Tar.write members)).length := by
  have stored := Inflate.length_le_storeBlocks
    ((Tar.write members).length / Inflate.maxStored) (Tar.write members)
  rw [Gzip.pack, List.length_append, List.length_append, Inflate.store]
  omega

/-- A reader finds in an archive the files from which it was written. -/
theorem archiveContents_pack {members : List Tar.Member}
    (nonzero : ∀ member ∈ members, '\x00' ∉ member.name.toList)
    (small : (Gzip.pack (Tar.write members)).length ≤ Tar.maxNumber) :
    archiveContents (Gzip.pack (Tar.write members)) = ⟨members.map Tar.Member.entry, true⟩ := by
  rw [archiveContents, Gzip.unpack_pack,
    Tar.read_write nonzero ((length_write_le_pack members).trans small)]

@[simp] theorem Tar.Member.path_entry (member : Tar.Member) :
    member.entry.path = ⟨member.name⟩ := by
  rw [Tar.Entry.path, entry, Utf8.decodeLossy_encode]

/-- Each file is found under its own name and with its own content. -/
theorem entries_archiveContents_pack {members : List Tar.Member}
    (nonzero : ∀ member ∈ members, '\x00' ∉ member.name.toList)
    (small : (Gzip.pack (Tar.write members)).length ≤ Tar.maxNumber) :
    ((archiveContents (Gzip.pack (Tar.write members))).entries.map fun entry =>
      (entry.path.text, (.ok entry.data : Except IoError Bytes))) =
        members.map fun member => (member.name, .ok member.content) := by
  rw [archiveContents_pack nonzero small, List.map_map]
  refine List.map_congr_left fun member _ => ?_
  rw [Function.comp_apply, Tar.Member.path_entry]
  rfl

/-- The members are listed in the order in which they were written. -/
theorem listMembers_of_pack {files : FileSystem} {path : Path} {members : List Tar.Member}
    (content : files.contentOf path = .ok (Gzip.pack (Tar.write members)))
    (nonzero : ∀ member ∈ members, '\x00' ∉ member.name.toList)
    (small : (Gzip.pack (Tar.write members)).length ≤ Tar.maxNumber) :
    listMembers files path = .ok (members.map Tar.Member.name) := by
  rw [listMembers, content]
  dsimp only
  rw [archiveContents_pack nonzero small, if_pos rfl, List.map_map]
  simp [Function.comp_def]

end ReleasePacker
