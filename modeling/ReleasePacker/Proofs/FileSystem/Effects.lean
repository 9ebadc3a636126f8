import ReleasePacker.FileSystem.Temporary
import ReleasePacker.Proofs.FileSystem.Paths

/-!
# What operations do

For each operation on files: when it succeeds, and which tree it then leaves. Later proofs cite
these facts and never open the operations.
-/

namespace ReleasePacker.FileSystem

variable {files after : FileSystem} {path : Path}

/-- A free name is one that its folder does not have. -/
theorem free_spec {last trailing : Bool} {folder : Location} {name : String}
    (free : files.follow path last = .ok (.free folder name trailing)) :
    files.entryAt folder = some .folder ∧ files.entryAt (folder ++ [name]) = none := by
  obtain ⟨-, passed, leads⟩ := follow_eq_ok.mp free
  exact leads.free_spec

/-- A path that leads somewhere still does if all that existed is kept. -/
theorem follow_of_kept {last : Bool} {location : Location}
    (leads : files.follow path last = .ok (.found location))
    (workingDirectory : after.workingDirectory = files.workingDirectory)
    (kept : ∀ l, files.entryAt l ≠ none → SameShape files after l) :
    after.follow path last = .ok (.found location) := by
  obtain ⟨accepted, passed, leads⟩ := follow_eq_ok.mp leads
  refine follow_eq_ok.mpr ⟨accepted, passed, ?_⟩
  rw [workingDirectory]
  exact leads.of_kept kept

/-- What exists is the same after an entry was put under a free name. -/
theorem sameShape_put {folder : Location} {name : String}
    (nothing : files.entryAt (folder ++ [name]) = none) (node : Node) {location : Location}
    (there : files.entryAt location ≠ none) :
    SameShape files (files.put folder name node) location :=
  .of_eq (entryAt_put_of_not_below folder name node fun below =>
    there (entryAt_eq_none_of_below nothing below)).symm

/-- Other content in a file changes no shape. -/
theorem sameShape_replace {place : Location} {mode : Nat} {content : Bytes}
    (there : files.root.get? place = some (.file mode content)) (mode' : Nat) (content' : Bytes)
    (location : Location) :
    SameShape files (files.replace place (.file mode' content')) location := by
  by_cases below : place <+: location
  · obtain ⟨back, rfl⟩ := below
    rw [SameShape, entryAt, entryAt, Node.entryAt, Node.entryAt, get?_replace_append there,
      Node.get?_append, there]
    cases back <;> rfl
  · exact .of_eq (entryAt_replace_of_not_below place _ below).symm

/-- A path that led to a free name leads to what was put there. -/
theorem follow_put {last last' trailing : Bool} {folder : Location} {name : String}
    (free : files.follow path last = .ok (.free folder name trailing)) {node : Node}
    (noLink : ∀ target, node.entry ≠ .link target) (whole : trailing = true → node.entry = .folder)
    (follows : last = true → last' = true) :
    (files.put folder name node).follow path last' = .ok (.found (folder ++ [name])) := by
  obtain ⟨inside, nothing⟩ := free_spec free
  obtain ⟨accepted, passed, leads⟩ := follow_eq_ok.mp free
  obtain ⟨children, found⟩ := entryAt_eq_folder.mp inside
  have there := get?_put_append found name node []
  rw [List.append_nil, Node.get?_nil] at there
  exact follow_eq_ok.mpr ⟨accepted, _, leads.of_free (fun _ held => sameShape_put nothing node held)
    (entryAt_of_get? there) noLink whole follows⟩

/-- A file that is put under a free name is found there. -/
theorem follow_put_file {last : Bool} {folder : Location} {name : String}
    (free : files.follow path last = .ok (.free folder name false)) (mode : Nat) (content : Bytes) :
    (files.put folder name (.file mode content)).follow path last =
      .ok (.found (folder ++ [name])) :=
  follow_put free nofun nofun id

/-! ## Making folders and files -/

theorem makeFolder_eq_ok :
    files.makeFolder path = .ok after ↔ ∃ folder name,
      files.followName path = .ok (.free folder name false) ∧
        after = files.put folder name (.folder []) := by
  rw [makeFolder]
  rcases files.followName path with error | (location | ⟨folder, name, _ | _⟩) <;>
    simp [eq_comm]

/-- A folder is made under a name that was free. -/
theorem free_of_makeFolder (made : files.makeFolder path = .ok after) :
    ∃ folder name trailing, files.follow path false = .ok (.free folder name trailing) ∧
      after = files.put folder name (.folder []) := by
  obtain ⟨folder, name, free, rfl⟩ := makeFolder_eq_ok.mp made
  obtain ⟨trailing, leads⟩ := exists_follow_of_followName free
  exact ⟨folder, name, trailing, leads, rfl⟩

theorem createNew_eq_ok {mode : Nat} :
    files.createNew path mode = .ok after ↔ ∃ folder name,
      files.follow path false = .ok (.free folder name false) ∧
        after = files.put folder name (.file mode []) := by
  rw [createNew]
  rcases files.follow path false with error | (location | ⟨folder, name, _ | _⟩) <;>
    simp [eq_comm]

/-- Writing replaces the content of a file, or makes one under a free name. -/
theorem writeFile_eq_ok {mode : Nat} {content : Bytes} :
    files.writeFile path content mode = .ok after ↔
      (∃ location node old, files.follow path true = .ok (.found location) ∧
        files.root.get? location = some node ∧ node.reading = some old ∧
        after = files.replace location (.file old.mode content)) ∨
      ∃ folder name, files.follow path true = .ok (.free folder name false) ∧
        after = files.put folder name (.file mode content) := by
  rw [writeFile]
  rcases files.follow path true with error | (location | ⟨folder, name, _ | _⟩)
  · simp
  · rcases found : files.root.get? location with _ | (_ | _ | _ | _) <;>
      simp [found, Node.reading, eq_comm]
  · simp [eq_comm]
  · simp

/-- Writing to a file leaves its mode. -/
theorem writeFile_of_find {place : Location} {mode : Nat} {was : Bytes}
    (found : files.find path = .ok (place, .file mode was)) (content : Bytes) (mode' : Nat) :
    files.writeFile path content mode' = .ok (files.replace place (.file mode content)) := by
  obtain ⟨leads, held⟩ := find_eq_ok.mp found
  exact writeFile_eq_ok.mpr (.inl ⟨place, _, _, leads, held, rfl, rfl⟩)

/-- Setting the mode of a file leaves its content. -/
theorem setMode_of_find {place : Location} {mode : Nat} {content : Bytes}
    (found : files.find path = .ok (place, .file mode content)) (mode' : Nat) :
    files.setMode path mode' = .ok (files.replace place (.file mode' content)) := by
  rw [setMode, found]

/-- What is no file has no mode to be set. -/
theorem setMode_of_reading_eq_none {place : Location} {node : Node}
    (found : files.find path = .ok (place, node)) (other : node.reading = none) (mode : Nat) :
    files.setMode path mode = .ok files := by
  rw [setMode, found]
  cases node <;> first | rfl | cases other

/-- A file that was written over is found with its new content. -/
theorem find_replace_file {place : Location} {mode : Nat} {was : Bytes}
    (found : files.find path = .ok (place, .file mode was)) (mode' : Nat) (content : Bytes) :
    (files.replace place (.file mode' content)).find path =
      .ok (place, .file mode' content) := by
  obtain ⟨leads, held⟩ := find_eq_ok.mp found
  have held' := get?_replace_append held (.file mode' content) []
  rw [List.append_nil, Node.get?_nil] at held'
  exact find_eq_ok.mpr
    ⟨follow_of_kept leads rfl fun l _ => sameShape_replace held mode' content l, held'⟩

/-- Copying changes nothing, or there is a file to be copied and its target is emptied. -/
theorem copyFile_cases (files : FileSystem) (source target : Path) (shortage : Option Shortage) :
    (∃ error, files.copyFile source target shortage = (.error error, files)) ∨
      ∃ location node opened emptied, files.find source = .ok (location, node) ∧
        node.reading = some opened ∧ files.writeFile target [] opened.mode = .ok emptied := by
  rw [copyFile]
  rcases found : files.find source with error | ⟨location, node⟩
  · exact .inl ⟨error, rfl⟩
  · dsimp only
    cases regular : node.reading with
    | none => exact .inl ⟨_, rfl⟩
    | some opened =>
      dsimp only
      cases empty : files.writeFile target [] opened.mode with
      | error error => exact .inl ⟨error, rfl⟩
      | ok emptied => exact .inr ⟨location, node, opened, emptied, rfl, regular, empty⟩

/-- Once its target is emptied, a file that is still there is copied as far as it can be. -/
theorem copyFile_of_writeFile {emptied : FileSystem} {source target : Path}
    {location place : Location} {node : Node} {opened : Reading} {old : Nat}
    (shortage : Option Shortage) (found : files.find source = .ok (location, node))
    (regular : node.reading = some opened)
    (empty : files.writeFile target [] opened.mode = .ok emptied)
    (there : emptied.find target = .ok (place, .file old []))
    (kept : (emptied.replace place (.file opened.mode [])).root.get? location = some node) :
    files.copyFile source target shortage = ((opened.upTo shortage).result,
      (emptied.replace place (.file opened.mode [])).replace place
        (.file opened.mode (opened.upTo shortage).content)) := by
  have prepared := setMode_of_find there opened.mode
  have filled := writeFile_of_find (find_replace_file there opened.mode [])
    (opened.upTo shortage).content opened.mode
  simp only [copyFile, found, regular, empty, proceed, prepared, kept, Option.bind_some,
    Option.getD_some, filled]

/-- Of a node that is no folder nothing is hidden below it. -/
theorem get?_eq_leaf {location : Location} {node : Node} (leaf : node.entry ≠ .folder) :
    files.root.get? location = some node ↔ files.entryAt location = some node.entry := by
  rw [entryAt, Node.entryAt]
  rcases files.root.get? location with _ | other
  · simp
  · cases node <;> cases other <;> simp_all [Node.entry]

/-- A node that looks like a file is one. -/
theorem get?_eq_file {location : Location} {mode : Nat} {content : Bytes} :
    files.root.get? location = some (.file mode content) ↔
      files.entryAt location = some (.file mode content) :=
  get?_eq_leaf nofun

/-! ## Moving and removing -/

theorem removeFile_eq_ok :
    files.removeFile path = .ok after ↔ ∃ location node,
      files.find path false = .ok (location, node) ∧ node.entry ≠ .folder ∧
        after = files.erase location := by
  rw [removeFile]
  rcases files.find path false with error | ⟨location, (_ | _ | _ | _)⟩ <;>
    simp [Node.entry, eq_comm]

theorem removeTree_eq_ok :
    files.removeTree path = .ok after ↔ ∃ location node,
      files.find path false = .ok (location, node) ∧ node.reading = none ∧
        after = files.erase location := by
  rw [removeTree]
  rcases files.find path false with error | ⟨location, (_ | _ | _ | _)⟩ <;>
    simp [Node.isFile, Node.reading, eq_comm]

/-- A file takes another name: one that is free, or that of another file or link. -/
theorem rename_eq_ok {target : Path} :
    files.rename path target = .ok after ↔
      ∃ location node, files.find path false = .ok (location, node) ∧
        ((∃ folder name, files.follow target false = .ok (.free folder name false) ∧
            after = (files.erase location).put folder name node) ∨
          (files.follow target false = .ok (.found location) ∧ after = files) ∨
          ∃ folder name other, folder ++ [name] ≠ location ∧
            files.follow target false = .ok (.found (folder ++ [name])) ∧
            files.root.get? (folder ++ [name]) = some other ∧ other.entry ≠ .folder ∧
            after = (files.erase location).put folder name node) := by
  rw [rename]
  rcases files.find path false with error | ⟨location, node⟩
  · simp
  rcases files.follow target false with error | (other | ⟨folder, name, _ | _⟩)
  · simp
  -- Something has the name already: the file itself, the root, or an entry of a folder.
  · by_cases same : other = location
    · subst same
      dsimp only
      rw [if_pos rfl]
      constructor
      · intro renamed
        cases renamed
        exact ⟨other, node, rfl, .inr (.inl ⟨rfl, rfl⟩)⟩
      · rintro ⟨_, _, same, ⟨_, _, free, -⟩ | ⟨-, rfl⟩ | ⟨_, _, _, different, found, -⟩⟩
        · cases free
        · rfl
        · cases same
          cases found
          exact absurd rfl different
    · rcases List.eq_nil_or_concat other with rfl | ⟨folder, name, rfl⟩
      · cases found : files.root.get? [] with
        | none => simp [same, found, Ne.symm same]
        | some there => cases there <;> simp [same, found, Ne.symm same]
      · rw [List.concat_eq_append] at same ⊢
        rcases found : files.root.get? (folder ++ [name]) with _ | (_ | _ | _ | _) <;>
          simp [same, found, Ne.symm same, Node.entry, eq_comm]
  · simp [eq_comm]
  · simp

/-! ## Temporary names -/

theorem firstFree_eq_ok {make : Path → Except IoError FileSystem} {candidate : Nat → Path}
    {left next : Nat} (made : firstFree make candidate left next = .ok (path, after)) :
    ∃ attempt, path = candidate attempt ∧ make path = .ok after := by
  induction left generalizing next with
  | zero => cases made
  | succ left ih =>
    rw [firstFree] at made
    cases tried : make (candidate next) with
    | ok result =>
      rw [tried] at made
      cases made
      exact ⟨next, rfl, tried⟩
    | error error =>
      rw [tried] at made
      dsimp only at made
      split at made
      · exact ih made
      · cases made

/-- Where temporary names are tried. -/
def temporaryBase (files : FileSystem) (folder : Path) : Path :=
  if folder.isAbsolute then folder
  else ⟨"/" ++ Text.joinWith "/" files.workingDirectory⟩ / folder

theorem makeTemporary_eq_ok {uniqueText : Nat → String}
    {make : FileSystem → Path → Except IoError FileSystem} {folder : Path} {front ending : String}
    (made : files.makeTemporary uniqueText make folder front ending = .ok (path, after)) :
    ∃ attempt, path = files.temporaryBase folder / (front ++ uniqueText attempt ++ ending) ∧
      make files path = .ok after :=
  firstFree_eq_ok made

theorem isFile_eq_true : files.isFile path = true ↔
    ∃ location node opened, files.find path = .ok (location, node) ∧
      node.reading = some opened := by
  rw [isFile]
  rcases files.find path with error | ⟨location, node⟩ <;>
    simp [Node.isFile, Option.isSome_iff_exists]

theorem isFolder_eq_true : files.isFolder path = true ↔
    ∃ location, files.follow path true = .ok (.found location) ∧
      files.entryAt location = some .folder := by
  constructor
  · intro folder
    rw [isFolder] at folder
    split at folder
    next location children found =>
      obtain ⟨leads, there⟩ := find_eq_ok.mp found
      exact ⟨location, leads, entryAt_of_get? there⟩
    · cases folder
  · rintro ⟨location, leads, there⟩
    obtain ⟨children, there⟩ := entryAt_eq_folder.mp there
    rw [isFolder, find_eq_ok.mpr ⟨leads, there⟩]

end ReleasePacker.FileSystem
