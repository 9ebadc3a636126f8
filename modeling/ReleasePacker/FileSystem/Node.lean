import ReleasePacker.IoError
import ReleasePacker.Text.Utf8

/-!
# The tree of files

What a file system holds is a tree of folders, files and symbolic links. A place in the tree
is the list of names that leads to it from the top, so the operations here are recursions on
that list.
-/

namespace ReleasePacker

/-- The names that lead to a place from the top of the tree. -/
abbrev Location := List String

/-- A tree of files. -/
inductive Node where
  /-- A regular file with its permission bits. -/
  | file (mode : Nat) (content : Bytes)
  /-- A regular file that cannot be read to its end: what can be read, and the error after it. -/
  | broken (mode : Nat) (readable : Bytes) (error : IoError)
  /-- A symbolic link. -/
  | link (target : Path)
  /-- A folder and what it holds. -/
  | folder (children : List (String × Node))

/-- What a location holds, without what is below it. -/
inductive Entry where
  | file (mode : Nat) (content : Bytes)
  | broken (mode : Nat) (readable : Bytes) (error : IoError)
  | link (target : Path)
  | folder
  deriving DecidableEq

/-- What reading a regular file gives. -/
structure Reading where
  mode : Nat
  content : Bytes
  /-- Why the file cannot be read on, if it is not read to its end. -/
  fault : Option IoError

/-- A disk that takes only so many bytes more. -/
structure Shortage where
  room : Nat
  /-- How writing beyond them fails. -/
  error : IoError

namespace Reading

/-- How reading the file ends. -/
def result (reading : Reading) : Except IoError Unit :=
  match reading.fault with
  | none => .ok ()
  | some error => .error error

/-- What is read until a disk takes no more of it. -/
def upTo (reading : Reading) : Option Shortage → Reading
  | some ⟨room, error⟩ =>
    if room < reading.content.length then
      { reading with content := reading.content.take room, fault := some error }
    else reading
  | none => reading

end Reading

namespace Node

instance : Inhabited Node := ⟨.folder []⟩

/-- The node without what is below it. -/
def entry : Node → Entry
  | file mode content => .file mode content
  | broken mode readable error => .broken mode readable error
  | link target => .link target
  | folder _ => .folder

/-- What reading a regular file gives. -/
def reading : Node → Option Reading
  | file mode content => some ⟨mode, content, none⟩
  | broken mode readable error => some ⟨mode, readable, some error⟩
  | _ => none

/-- Whether a node is a regular file. -/
def isFile (node : Node) : Bool := node.reading.isSome

/-- What a folder holds; a file or a link holds nothing. -/
def children : Node → List (String × Node)
  | folder list => list
  | _ => []

/-- The node that a folder holds under a name. -/
def child? (node : Node) (name : String) : Option Node :=
  node.children.lookup name

/-- The node at a location. -/
def get? : Node → Location → Option Node
  | node, [] => some node
  | node, name :: rest =>
    match node.child? name with
    | some next => next.get? rest
    | none => none

/-- The tree with the node at a location changed; unchanged if there is none. -/
def alter (change : Node → Node) : Location → Node → Node
  | [], node => change node
  | name :: rest, folder list =>
    folder (list.map fun item => if item.1 = name then (item.1, alter change rest item.2) else item)
  | _ :: _, node => node

/-- The folder without its entry under a name. -/
def eraseChild (name : String) : Node → Node
  | folder list => folder (list.filter fun item => item.1 ≠ name)
  | node => node

/-- The folder with an entry under a name, in place of any it had. -/
def insertChild (name : String) (node : Node) : Node → Node
  | folder list => folder ((name, node) :: list.filter fun item => item.1 ≠ name)
  | other => other

/-- The tree with a node put at a location; folders that are missing on the way are made. -/
def graft (root : Node) : Location → Node → Node
  | [], node => node
  | name :: rest, node =>
    insertChild name (((root.child? name).getD (.folder [])).graft rest node) root

/-- A regular file is no folder. -/
theorem leaf_of_reading (node : Node) {opened : Reading} (regular : node.reading = some opened) :
    node.entry ≠ .folder := by
  cases node with
  | file | broken | link => exact nofun
  | folder => cases regular

/-- A file that is read to its end, and one that is not. -/
theorem reading_cases {node : Node} {opened : Reading} (regular : node.reading = some opened) :
    (opened.result = .ok () ∧ node = .file opened.mode opened.content) ∨
      ∃ error, opened.result = .error error ∧
        node = .broken opened.mode opened.content error := by
  cases node with
  | file =>
    cases regular
    exact .inl ⟨rfl, rfl⟩
  | broken mode readable error =>
    cases regular
    exact .inr ⟨error, rfl, rfl⟩
  | link | folder => cases regular

/-- A file is copied whole, or it cannot be read on, or the disk takes no more of it. -/
theorem upTo_cases {node : Node} {opened : Reading} (regular : node.reading = some opened)
    (shortage : Option Shortage) :
    ((opened.upTo shortage).result = .ok () ∧ (opened.upTo shortage).content = opened.content ∧
        node = .file opened.mode opened.content) ∨
      ∃ error, (opened.upTo shortage).result = .error error ∧
        (((opened.upTo shortage).content = opened.content ∧
            node = .broken opened.mode opened.content error) ∨
          ∃ room, shortage = some ⟨room, error⟩ ∧ room < opened.content.length ∧
            (opened.upTo shortage).content = opened.content.take room) := by
  have whole : opened.upTo shortage = opened ∨ ∃ room error, shortage = some ⟨room, error⟩ ∧
      room < opened.content.length ∧
      opened.upTo shortage = ⟨opened.mode, opened.content.take room, some error⟩ := by
    rcases shortage with _ | ⟨room, error⟩
    · exact .inl rfl
    · by_cases more : room < opened.content.length
      · exact .inr ⟨room, error, rfl, more, if_pos more⟩
      · exact .inl (if_neg more)
  rcases whole with same | ⟨room, error, full, more, cut⟩
  · rw [same]
    rcases reading_cases regular with ⟨ends, file⟩ | ⟨error, ends, broken⟩
    · exact .inl ⟨ends, rfl, file⟩
    · exact .inr ⟨error, ends, .inl ⟨rfl, broken⟩⟩
  · rw [cut]
    exact .inr ⟨error, rfl, .inr ⟨room, full, more, rfl⟩⟩

theorem get?_nil (node : Node) : node.get? [] = some node := by
  cases node <;> rfl

theorem get?_cons (node : Node) (name : String) (rest : Location) :
    node.get? (name :: rest) = (node.child? name).bind fun next => next.get? rest := by
  rw [get?]
  cases node.child? name <;> rfl

theorem get?_append (node : Node) (front back : Location) :
    node.get? (front ++ back) = (node.get? front).bind fun next => next.get? back := by
  induction front generalizing node with
  | nil => simp [get?_nil]
  | cons name rest ih =>
    rw [List.cons_append, get?_cons, get?_cons]
    cases node.child? name with
    | none => rfl
    | some next => simpa using ih next

end Node
end ReleasePacker
