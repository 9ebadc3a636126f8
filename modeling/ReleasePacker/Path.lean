import ReleasePacker.Text.Lines

/-!
# Paths

A path is kept as it was written; joining adds at most one separator, and nothing is ever
normalised. The questions asked of a path (its last name, its parent, whether it climbs)
are answered from its components.
-/

namespace ReleasePacker

/-- A path as written. -/
structure Path where
  /-- The text of the path. -/
  text : String
  deriving DecidableEq, Repr, Hashable, Inhabited

/-- One step of a path. -/
inductive Component where
  /-- The root directory; only the first component can be it. -/
  | root
  /-- The current directory, written `.`; only kept as the first component. -/
  | current
  /-- The parent directory, written `..`. -/
  | parent
  /-- A name. -/
  | name (text : String)
  deriving DecidableEq, Repr

namespace Path

instance : ToString Path := ⟨Path.text⟩

/-- Whether the path starts at the root. -/
def isAbsolute (path : Path) : Bool :=
  path.text.toList.head? = some '/'

/-- The path `other` seen from `base`: itself if it is absolute, and otherwise appended after
a separator, which is left out where `base` is empty or has one at its end. -/
def join (base other : Path) : Path :=
  if other.isAbsolute then other
  else if base.text.toList.isEmpty || base.text.toList.getLast? = some '/' then
    ⟨base.text ++ other.text⟩
  else ⟨base.text ++ "/" ++ other.text⟩

instance : HDiv Path Path Path := ⟨join⟩
instance : HDiv Path String Path := ⟨fun base name => base.join ⟨name⟩⟩

/-- The texts between the separators of a path. -/
def pieces (path : Path) : List String :=
  (Text.splitAt '/' path.text.toList).map String.ofList

/-- The component that a nonempty piece inside a path stands for; `.` stands for none. -/
def componentOf (piece : String) : Option Component :=
  if piece = "" || piece = "." then none
  else if piece = ".." then some .parent
  else some (.name piece)

/-- The steps that the path takes. Repeated separators, a separator at the end and every `.`
except one at the start of a relative path are left out. -/
def components (path : Path) : List Component :=
  let steps := path.pieces.filterMap componentOf
  if path.isAbsolute then .root :: steps
  else if path.pieces.head? = some "." then .current :: steps
  else steps

/-- The name that the path ends in; a path that ends in `..`, is empty, or leads nowhere but to
the root or the current directory has none. -/
def fileName (path : Path) : Option String :=
  match path.components.getLast? with
  | some (.name text) => some text
  | _ => none

/-- How a component is written. -/
def componentText : Component → String
  | .root => "/"
  | .current => "."
  | .parent => ".."
  | .name text => text

/-- The path of a list of components. -/
def ofComponents (components : List Component) : Path :=
  components.foldl (fun path component => path.join ⟨componentText component⟩) ⟨""⟩

/-- The path without its last component; the root and the empty path have no parent. -/
def parent (path : Path) : Option Path :=
  match path.components.reverse with
  | [] => none
  | .root :: _ => none
  | _ :: before => some (ofComponents before.reverse)

/-- Whether following the path can lead above the directory it starts from. -/
def climbs (path : Path) : Bool :=
  path.components.any fun component => component = .parent || component = .root

end Path
end ReleasePacker
