import ReleasePacker.FileSystem.Lookup

/-!
# Listing trees

The names of a folder and of all folders in it, in one list.
-/

namespace ReleasePacker.FileSystem

/-- All names in a folder and below it, each after the names that lead to it. A name of a folder
ends with a separator and that of a symbolic link with an at sign. -/
def treeNames (front : String) : List (String × Node) → List String
  | [] => []
  | (name, .file _ _) :: rest => (front ++ name) :: treeNames front rest
  | (name, .broken _ _ _) :: rest => (front ++ name) :: treeNames front rest
  | (name, .link _) :: rest => (front ++ name ++ "@") :: treeNames front rest
  | (name, .folder inner) :: rest =>
    let path := front ++ name ++ "/"
    path :: treeNames path inner ++ treeNames front rest

/-- All names in the folder that a path leads to and below it, in order; `none` if the path
leads to no folder. -/
def listTree (files : FileSystem) (path : Path) : Option (List String) :=
  match files.find path with
  | .ok (_, .folder children) =>
    some ((treeNames "" children).mergeSort fun a b => decide (a ≤ b))
  | _ => none

end ReleasePacker.FileSystem
