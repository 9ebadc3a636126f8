import Mathlib.Data.List.Basic
import Mathlib.Tactic.Common
import ReleasePacker.FileSystem.Operations

/-!
# What locations hold

Following a path only looks at what each location holds, not at the tree as a whole. Here every
change of the tree is described by what the locations hold before and after it.
-/

namespace ReleasePacker

/-! ## Association lists -/

namespace AssocList

variable {α : Type} (name other : String)

theorem lookup_filter_ne (list : List (String × α)) :
    (list.filter fun item => item.1 ≠ name).lookup other =
      if other = name then none else list.lookup other := by
  induction list with
  | nil => simp
  | cons item rest ih =>
    rcases item with ⟨found, node⟩
    by_cases same : found = name
    · subst same
      by_cases hit : other = found
      · simpa [hit] using ih
      · simpa [hit, List.lookup_cons, beq_false_of_ne hit] using ih
    · by_cases hit : other = found
      · subst hit
        simp [same]
      · simpa [same, List.lookup_cons, beq_false_of_ne hit] using ih

theorem lookup_map_at (change : α → α) (list : List (String × α)) :
    (list.map fun item => if item.1 = name then (item.1, change item.2) else item).lookup other =
      if other = name then (list.lookup other).map change else list.lookup other := by
  induction list with
  | nil => simp
  | cons item rest ih =>
    rcases item with ⟨found, node⟩
    by_cases hit : other = found
    · subst hit
      by_cases same : other = name <;> simp [same]
    · have skipped (node : α) (more : List (String × α)) :
          ((found, node) :: more).lookup other = more.lookup other := by
        rw [List.lookup_cons, beq_false_of_ne hit]
      rw [List.map_cons, skipped, ← ih]
      split <;> exact skipped _ _

end AssocList

namespace Node

/-! ## Nodes after a change -/

/-- What a location holds, if anything. -/
def entryAt (root : Node) (location : Location) : Option Entry :=
  (root.get? location).map entry

@[simp] theorem entry_eq_folder {node : Node} :
    node.entry = .folder ↔ ∃ children, node = .folder children := by
  cases node <;> simp [entry]

theorem entryAt_eq_folder {root : Node} {location : Location} :
    root.entryAt location = some .folder ↔
      ∃ children, root.get? location = some (.folder children) := by
  simp [entryAt]

theorem get?_concat (root : Node) (location : Location) (name : String) :
    root.get? (location ++ [name]) = (root.get? location).bind fun node => node.child? name := by
  rw [get?_append]
  congr 1
  funext node
  rw [get?_cons]
  cases node.child? name with
  | none => rfl
  | some next => exact get?_nil next

theorem child?_eq_none_of_entry_ne {node : Node} (other : node.entry ≠ .folder) (name : String) :
    node.child? name = none := by
  cases node with
  | folder children => exact absurd rfl other
  | file | broken => rfl
  | link target => rfl

/-- Below what is no folder there is nothing. -/
theorem get?_of_entryAt_ne_folder {root : Node} {front : Location}
    (other : root.entryAt front ≠ some .folder) {back : Location} (below : back ≠ []) :
    root.get? (front ++ back) = none := by
  cases back with
  | nil => exact absurd rfl below
  | cons name rest =>
    rw [get?_append]
    cases found : root.get? front with
    | none => rfl
    | some node =>
      have noFolder : node.entry ≠ .folder := by
        intro folder
        exact other (by rw [entryAt, found, Option.map_some, folder])
      rw [Option.bind_some, get?_cons, child?_eq_none_of_entry_ne noFolder]
      rfl

/-- What holds something is a folder. -/
theorem entryAt_of_concat {root : Node} {front : Location} {name : String}
    (holds : root.entryAt (front ++ [name]) ≠ none) : root.entryAt front = some .folder := by
  by_contra other
  exact holds (by rw [entryAt, get?_of_entryAt_ne_folder other (List.cons_ne_nil _ _)]; rfl)

theorem child?_alter (change : Node → Node) (name : String) (rest : Location) (root : Node)
    (other : String) :
    (alter change (name :: rest) root).child? other =
      if other = name then (root.child? other).map (alter change rest) else root.child? other := by
  cases root with
  | folder list =>
    simpa [alter, child?, children] using
      AssocList.lookup_map_at name other (alter change rest) list
  | file | broken => simp [alter, child?, children]
  | link target => simp [alter, child?, children]

/-- At and below the changed location the change is seen. -/
theorem get?_alter_append (change : Node → Node) (place back : Location) (root : Node) :
    (alter change place root).get? (place ++ back) =
      (root.get? place).bind fun node => (change node).get? back := by
  induction place generalizing root with
  | nil => simp [alter, get?_nil]
  | cons name rest ih =>
    rw [List.cons_append, get?_cons, get?_cons, child?_alter, if_pos rfl]
    cases root.child? name with
    | none => rfl
    | some next => exact ih next

/-- Above the changed location the change is the same one further down. -/
theorem get?_alter_above (change : Node → Node) (front back : Location) (root : Node) :
    (alter change (front ++ back) root).get? front =
      (root.get? front).map (alter change back) := by
  induction front generalizing root with
  | nil => simp [get?_nil]
  | cons name rest ih =>
    rw [List.cons_append, get?_cons, get?_cons, child?_alter, if_pos rfl]
    cases root.child? name with
    | none => rfl
    | some next => exact ih next

theorem entry_alter_of_cons (change : Node → Node) (name : String) (rest : Location)
    (node : Node) : (alter change (name :: rest) node).entry = node.entry := by
  cases node <;> rfl

/-- What a location holds changes only at and below the changed location. -/
theorem entryAt_alter_of_not_below (change : Node → Node) {place location : Location}
    (outside : ¬ place <+: location) (root : Node) :
    (alter change place root).entryAt location = root.entryAt location := by
  induction place generalizing root location with
  | nil => exact absurd List.nil_prefix outside
  | cons name rest ih =>
    cases location with
    | nil => simp only [entryAt, get?_nil, Option.map_some, entry_alter_of_cons]
    | cons other back =>
      rw [entryAt, entryAt, get?_cons, get?_cons, child?_alter]
      by_cases same : other = name
      · subst same
        rw [if_pos rfl]
        cases root.child? other with
        | none => rfl
        | some next =>
          exact ih (fun front => outside ((List.prefix_cons_inj other).mpr front)) next
      · rw [if_neg same]

/-! ## Folders with an entry more or less -/

theorem child?_insertChild (name : String) (node : Node) (list : List (String × Node))
    (other : String) :
    (insertChild name node (.folder list)).child? other =
      if other = name then some node else (Node.folder list).child? other := by
  by_cases same : other = name
  · simp [insertChild, child?, children, same]
  · simp only [insertChild, child?, children, List.lookup_cons, beq_false_of_ne same, if_neg same]
    rw [AssocList.lookup_filter_ne, if_neg same]

theorem child?_eraseChild (name : String) (root : Node) (other : String) :
    (eraseChild name root).child? other = if other = name then none else root.child? other := by
  cases root with
  | folder list => exact AssocList.lookup_filter_ne name other list
  | file | broken => simp [eraseChild, child?, children]
  | link target => simp [eraseChild, child?, children]

@[simp] theorem entry_eraseChild (name : String) (node : Node) :
    (eraseChild name node).entry = node.entry := by
  cases node <;> rfl

@[simp] theorem entry_insertChild (name : String) (child node : Node) :
    (insertChild name child node).entry = node.entry := by
  cases node <;> rfl

end Node

namespace FileSystem

/-- What a location holds, if anything. -/
def entryAt (files : FileSystem) (location : Location) : Option Entry :=
  files.root.entryAt location

variable {files : FileSystem}

theorem entryAt_eq_folder {location : Location} :
    files.entryAt location = some .folder ↔
      ∃ children, files.root.get? location = some (.folder children) :=
  Node.entryAt_eq_folder

theorem get?_isSome_of_entryAt {location : Location} {entry : Entry}
    (holds : files.entryAt location = some entry) :
    ∃ node, files.root.get? location = some node ∧ node.entry = entry := by
  simpa [entryAt, Node.entryAt] using holds

theorem entryAt_of_get? {location : Location} {node : Node}
    (found : files.root.get? location = some node) :
    files.entryAt location = some node.entry := by
  rw [entryAt, Node.entryAt, found, Option.map_some]

/-- What holds something is a folder. -/
theorem entryAt_of_concat {front : Location} {name : String}
    (holds : files.entryAt (front ++ [name]) ≠ none) : files.entryAt front = some .folder :=
  Node.entryAt_of_concat holds

/-- What holds something further down is a folder. -/
theorem entryAt_of_append {front back : Location} (holds : files.entryAt (front ++ back) ≠ none)
    (below : back ≠ []) : files.entryAt front = some .folder := by
  by_contra other
  refine holds ?_
  rw [entryAt, Node.entryAt, Node.get?_of_entryAt_ne_folder other below, Option.map_none]

/-- Where nothing is, nothing is further down. -/
theorem entryAt_eq_none_of_below {front location : Location}
    (nothing : files.entryAt front = none) (below : front <+: location) :
    files.entryAt location = none := by
  obtain ⟨back, rfl⟩ := below
  by_cases proper : back = []
  · rwa [proper, List.append_nil]
  · by_contra holds
    exact absurd (nothing.symm.trans (entryAt_of_append holds proper)) nofun

@[simp] theorem workingDirectory_put (folder : Location) (name : String) (node : Node) :
    (files.put folder name node).workingDirectory = files.workingDirectory := rfl

@[simp] theorem workingDirectory_replace (location : Location) (node : Node) :
    (files.replace location node).workingDirectory = files.workingDirectory := rfl

@[simp] theorem workingDirectory_erase (location : Location) :
    (files.erase location).workingDirectory = files.workingDirectory := by
  rw [erase]
  split <;> rfl

/-! ## An entry put into a folder -/

theorem get?_put_append {folder : Location} {children : List (String × Node)}
    (inside : files.root.get? folder = some (.folder children)) (name : String) (node : Node)
    (back : Location) :
    (files.put folder name node).root.get? (folder ++ [name] ++ back) = node.get? back := by
  rw [put, List.append_assoc, Node.get?_alter_append, inside, Option.bind_some,
    List.singleton_append, Node.get?_cons, Node.child?_insertChild, if_pos rfl, Option.bind_some]

/-- Besides what is at the new entry and below it, nothing changes. -/
theorem entryAt_put_of_not_below (folder : Location) (name : String) (node : Node)
    {location : Location} (outside : ¬ folder ++ [name] <+: location) :
    (files.put folder name node).entryAt location = files.entryAt location := by
  by_cases inside : folder <+: location
  · obtain ⟨back, rfl⟩ := inside
    rw [entryAt, entryAt, put, Node.entryAt, Node.entryAt, Node.get?_alter_append,
      Node.get?_append]
    cases files.root.get? folder with
    | none => rfl
    | some found =>
      rw [Option.bind_some, Option.bind_some]
      cases back with
      | nil =>
        -- The folder itself has one entry more, but it is still a folder.
        simp only [Node.get?_nil, Option.map_some, Node.entry_insertChild]
      | cons other rest =>
        have different : other ≠ name := by
          rintro rfl
          exact outside ⟨rest, by rw [List.append_assoc, List.singleton_append]⟩
        rw [Node.get?_cons, Node.get?_cons]
        cases found with
        | folder children => rw [Node.child?_insertChild, if_neg different]
        | file | broken => rfl
        | link target => rfl
  · exact Node.entryAt_alter_of_not_below _ inside files.root

theorem entryAt_put {folder : Location} (inside : files.entryAt folder = some .folder)
    (name : String) (node : Node) (location : Location) :
    (files.put folder name node).entryAt location =
      if folder ++ [name] <+: location then
        node.entryAt (location.drop (folder.length + 1))
      else files.entryAt location := by
  split
  next below =>
    obtain ⟨back, rfl⟩ := below
    obtain ⟨children, inside⟩ := entryAt_eq_folder.mp inside
    rw [entryAt, Node.entryAt, get?_put_append inside, Node.entryAt, List.drop_left' (by simp)]
  next outside => exact entryAt_put_of_not_below folder name node outside

/-! ## An entry replaced -/

theorem get?_replace_append {location : Location} {old : Node}
    (there : files.root.get? location = some old) (node : Node) (back : Location) :
    (files.replace location node).root.get? (location ++ back) = node.get? back := by
  rw [replace, Node.get?_alter_append, there, Option.bind_some]

theorem entryAt_replace_of_not_below (place : Location) (node : Node) {location : Location}
    (outside : ¬ place <+: location) :
    (files.replace place node).entryAt location = files.entryAt location :=
  Node.entryAt_alter_of_not_below _ outside files.root

/-! ## An entry erased -/

theorem erase_concat (folder : Location) (name : String) :
    files.erase (folder ++ [name]) =
      { files with root := files.root.alter (Node.eraseChild name) folder } := by
  rw [erase, List.getLast?_concat, List.dropLast_concat]

/-- What is at an erased location and below it is gone, and nothing else changes. -/
theorem entryAt_erase {place : Location} (proper : place ≠ []) (location : Location) :
    (files.erase place).entryAt location =
      if place <+: location then none else files.entryAt location := by
  obtain ⟨folder, name, rfl⟩ := List.eq_nil_or_concat place |>.resolve_left proper
  rw [List.concat_eq_append, erase_concat]
  by_cases inside : folder <+: location
  · obtain ⟨back, rfl⟩ := inside
    rw [entryAt, entryAt, Node.entryAt, Node.entryAt, Node.get?_alter_append, Node.get?_append]
    cases back with
    | nil =>
      -- The folder itself has one entry less, but it is still a folder.
      have shorter : ¬ folder ++ [name] <+: folder ++ [] := by
        intro below
        have longer := below.length_le
        simp only [List.length_append, List.length_cons, List.length_nil] at longer
        omega
      rw [if_neg shorter]
      cases files.root.get? folder <;> simp [Node.get?_nil]
    | cons other rest =>
      have below : folder ++ [name] <+: folder ++ other :: rest ↔ other = name := by
        simp [List.prefix_append_right_inj, List.cons_prefix_cons, eq_comm]
      rw [if_congr below rfl rfl]
      cases files.root.get? folder with
      | none => simp
      | some found =>
        rw [Option.bind_some, Option.bind_some, Node.get?_cons, Node.get?_cons,
          Node.child?_eraseChild]
        by_cases same : other = name <;> simp [same]
  · have outside : ¬ folder ++ [name] <+: location := fun below =>
      inside ((List.prefix_append folder [name]).trans below)
    rw [if_neg outside]
    exact Node.entryAt_alter_of_not_below _ inside files.root

end FileSystem
end ReleasePacker
