import ReleasePacker.FileSystem.Node

/-!
# Differences between trees

What has to be done to a tree of files so that it becomes another one, step by step: what is in
the way is removed first, and folders are made before what they hold.
-/

namespace ReleasePacker

/-- One step towards another tree. -/
inductive Change where
  /-- What is at the location goes, with all that it holds. -/
  | remove (location : Location)
  | makeFolder (location : Location)
  | makeLink (location : Location) (target : Path)
  | writeFile (location : Location) (mode : Nat) (content : Bytes)
  deriving DecidableEq

namespace Change

/-- The steps that make entries in a folder that has none of their names. No step makes a file that
cannot be read. -/
def creating (front : Location) : List (String × Node) → List Change
  | [] => []
  | (name, .file mode content) :: rest =>
    .writeFile (front ++ [name]) mode content :: creating front rest
  | (_, .broken _ _ _) :: rest => creating front rest
  | (name, .link target) :: rest => .makeLink (front ++ [name]) target :: creating front rest
  | (name, .folder inner) :: rest =>
    .makeFolder (front ++ [name]) :: creating (front ++ [name]) inner ++ creating front rest

/-- The steps that remove the entries of which nothing is left. -/
def removing (front : Location) (before after : List (String × Node)) : List Change :=
  (before.filter fun item => (after.lookup item.1).isNone).map fun item =>
    .remove (front ++ [item.1])

/-- The steps that bring the entries of a folder up to date. -/
def updating (front : Location) (before : List (String × Node)) :
    List (String × Node) → List Change
  | [] => []
  | (name, .folder inner) :: rest =>
    (match before.lookup name with
      | some (.folder old) =>
        removing (front ++ [name]) old inner ++ updating (front ++ [name]) old inner
      | some _ => .remove (front ++ [name]) :: creating front [(name, .folder inner)]
      | none => creating front [(name, .folder inner)]) ++ updating front before rest
  | (name, .file mode content) :: rest =>
    (match before.lookup name with
      | some (.file oldMode oldContent) =>
        if oldMode = mode ∧ oldContent = content then []
        else [.writeFile (front ++ [name]) mode content]
      | some _ => [.remove (front ++ [name]), .writeFile (front ++ [name]) mode content]
      | none => [.writeFile (front ++ [name]) mode content]) ++ updating front before rest
  | (_, .broken _ _ _) :: rest => updating front before rest
  | (name, .link target) :: rest =>
    (match before.lookup name with
      | some (.link old) =>
        if old = target then []
        else [.remove (front ++ [name]), .makeLink (front ++ [name]) target]
      | some _ => [.remove (front ++ [name]), .makeLink (front ++ [name]) target]
      | none => [.makeLink (front ++ [name]) target]) ++ updating front before rest

/-- The steps that turn the entries of one folder into those of another. -/
def between (front : Location) (before after : List (String × Node)) : List Change :=
  removing front before after ++ updating front before after

end Change
end ReleasePacker
