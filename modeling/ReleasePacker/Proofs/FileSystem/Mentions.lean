import ReleasePacker.Proofs.FileSystem.Effects

/-!
# Names that are mentioned nowhere

A path can only reach a place through the names in it, the names in the symbolic links that it
meets, and those of the working directory. So a place whose name is in none of them is out of its
reach, and whatever happens there makes no difference to the path.
-/

namespace ReleasePacker

mutual

/-- The targets of the symbolic links in a tree. -/
def Node.links : Node → List Path
  | .file _ _ | .broken _ _ _ => []
  | .link target => [target]
  | .folder list => linksAmong list

/-- The targets of the symbolic links among entries and below them. -/
def linksAmong : List (String × Node) → List Path
  | [] => []
  | item :: rest => linksAt item ++ linksAmong rest

/-- The targets of the symbolic links at an entry and below it. -/
def linksAt : String × Node → List Path
  | (_, node) => node.links

end

theorem mem_linksAmong {list : List (String × Node)} {name : String} {node : Node}
    (inside : (name, node) ∈ list) {target : Path} (member : target ∈ node.links) :
    target ∈ linksAmong list := by
  induction list with
  | nil => cases inside
  | cons head rest ih =>
    rw [linksAmong, List.mem_append]
    rcases List.mem_cons.mp inside with rfl | later
    · rw [linksAt]
      exact .inl member
    · exact .inr (ih later)

/-- Each symbolic link in a tree is among its links. -/
theorem Node.mem_links {node : Node} {location : Location} {target : Path}
    (held : node.get? location = some (.link target)) : target ∈ node.links := by
  induction location generalizing node with
  | nil =>
    rw [get?_nil] at held
    cases held
    exact List.mem_singleton_self target
  | cons name rest ih =>
    rw [get?_cons] at held
    obtain ⟨child, found, below⟩ := Option.bind_eq_some_iff.mp held
    cases node with
    | file | broken | link => cases found
    | folder list =>
      obtain ⟨front, back, same, -⟩ := List.lookup_eq_some_iff.mp found
      have inside : (name, child) ∈ list := by
        change list = _ at same
        rw [same]
        exact List.mem_append_right front List.mem_cons_self
      rw [links]
      exact mem_linksAmong inside (ih below)

namespace FileSystem

/-- Whether a name is in one of the paths, in a symbolic link or in the working directory. -/
def mentions (files : FileSystem) (paths : List Path) (name : String) : Bool :=
  (paths ++ files.root.links).any (fun path => (steps path).contains (.enter name)) ||
    files.workingDirectory.contains name

/-- A name that is not mentioned is in none of the paths, in no link, and not in the working
directory. -/
theorem of_mentions_eq_false {files : FileSystem} {paths : List Path} {name : String}
    (unmentioned : files.mentions paths name = false) :
    (∀ path ∈ paths, .enter name ∉ steps path) ∧
      (∀ location target, files.entryAt location = some (.link target) →
        .enter name ∉ steps target) ∧ name ∉ files.workingDirectory := by
  rw [mentions, Bool.or_eq_false_iff, List.any_append, Bool.or_eq_false_iff, List.any_eq_false,
    List.any_eq_false] at unmentioned
  obtain ⟨⟨inPaths, inLinks⟩, inDirectory⟩ := unmentioned
  refine ⟨fun path member => by simpa using inPaths path member, fun location target held => ?_,
    by simpa using inDirectory⟩
  obtain ⟨node, found, same⟩ := Option.map_eq_some_iff.mp held
  cases node with
  | file | broken | folder => cases same
  | link other =>
    cases same
    simpa using inLinks target (Node.mem_links found)

/-- A file or a link that a path leads to is found in other files as well, if they are the same
wherever a name does not occur, and the path cannot have anything to do with that name. -/
theorem find_of_unmentioned {before after : FileSystem} {path : Path} {last : Bool} {name : String}
    {location : Location} {node : Node} (found : before.find path last = .ok (location, node))
    (leaf : node.entry ≠ .folder) (unmentioned : .enter name ∉ steps path)
    (unlinked : ∀ l target, before.entryAt l = some (.link target) → .enter name ∉ steps target)
    (outside : name ∉ before.workingDirectory)
    (sameDirectory : after.workingDirectory = before.workingDirectory)
    (same : ∀ l, name ∉ l → after.entryAt l = before.entryAt l) :
    after.find path last = .ok (location, node) := by
  obtain ⟨leads, there⟩ := find_eq_ok.mp found
  obtain ⟨accepted, passed, leads⟩ := follow_eq_ok.mp leads
  have start : name ∉ linkStart before.workingDirectory path := by
    rw [linkStart]
    split
    · exact List.not_mem_nil
    · exact outside
  obtain ⟨passes, ending, -⟩ := leads.avoids unmentioned unlinked start
  refine find_eq_ok.mpr ⟨follow_eq_ok.mpr ⟨accepted, passed, ?_⟩, ?_⟩
  · rw [sameDirectory]
    exact leads.transfer (.of_eq (same _ start).symm)
      (fun l member => .of_eq (same l (passes l member)).symm) fun _ _ _ vacant => by cases vacant
  · rw [get?_eq_leaf leaf] at there ⊢
    rw [same location (ending location rfl), there]

end FileSystem
end ReleasePacker
