import ReleasePacker.FileSystem.Node

/-!
# Following paths

A path is followed step by step from the top or from the working directory. A symbolic link
met on the way is replaced by its target; how many links one path may go through is limited,
so following always ends.
-/

namespace ReleasePacker

/-- A tree of files and the directory that relative paths start from. -/
structure FileSystem where
  /-- The folder at the top. -/
  root : Node
  /-- Where relative paths start. -/
  workingDirectory : Location := []

namespace FileSystem

/-- What one step of a path asks for. -/
inductive Step where
  /-- Stay, which only a folder allows. -/
  | stay
  /-- Go to the folder above; at the top, stay. -/
  | up
  /-- Go to an entry of the folder. -/
  | enter (name : String)
  deriving DecidableEq, Repr

/-- The step of a piece between separators; the empty pieces of doubled separators ask for
nothing. -/
def stepOf (piece : String) : Option Step :=
  if piece = "" then none
  else if piece = "." then some .stay
  else if piece = ".." then some .up
  else some (.enter piece)

/-- The steps that the pieces of a path ask for. -/
def takenSteps (path : Path) : List Step := path.pieces.filterMap stepOf

/-- The steps of a path. A separator at the end asks that the path lead to a folder. -/
def steps (path : Path) : List Step :=
  if path.pieces.getLast? = some "" then takenSteps path ++ [.stay] else takenSteps path

/-- The longest name that a folder can hold, in bytes. -/
def maxNameBytes : Nat := 255

/-- The longest path that the system accepts, in bytes. -/
def maxPathBytes : Nat := 4095

/-- How many symbolic links one path may go through. -/
def maxLinks : Nat := 40

/-- Where following steps comes to a stop. -/
inductive Stop where
  /-- All steps are taken. -/
  | arrived (location : Location)
  /-- The folder at a location has no entry under the name of the next step. -/
  | vacant (folder : Location) (name : String) (rest : List Step)
  /-- The entry is a symbolic link. -/
  | link (folder : Location) (name : String) (target : Path) (rest : List Step)
  /-- The step cannot be taken. -/
  | failed (error : IoError)

/-- Takes steps from a location until they are done or a symbolic link is met. -/
def walk (root : Node) : Location → List Step → Stop
  | here, [] => .arrived here
  | here, step :: rest =>
    match root.get? here with
    | some (.folder children) =>
      match step with
      | .stay => walk root here rest
      | .up => walk root here.dropLast rest
      | .enter name =>
        if maxNameBytes < (Utf8.encode name).length then .failed .nameTooLong
        else
          match children.lookup name with
          | none => .vacant here name rest
          | some (.link target) => .link here name target rest
          | some _ => walk root (here ++ [name]) rest
    | _ => .failed .notDirectory

/-- Where a path leads. -/
inductive Destination where
  /-- To a place in the tree. -/
  | found (location : Location)
  /-- To a free name in a folder; `trailing` tells whether the path asks for a folder there. -/
  | free (folder : Location) (name : String) (trailing : Bool)
  deriving DecidableEq, Repr

/-- Takes steps through at most `links` symbolic links. A link that is the last step is taken
only if `last` says so. -/
def followSteps (root : Node) (last : Bool) :
    (links : Nat) → Location → List Step → Except IoError Destination
  | links, here, path =>
    match walk root here path with
    | .arrived location => .ok (.found location)
    | .failed error => .error error
    | .vacant folder name rest =>
      if rest.all (· = .stay) then .ok (.free folder name (!rest.isEmpty))
      else .error .noEntry
    | .link folder name target rest =>
      if rest.isEmpty && !last then .ok (.found (folder ++ [name]))
      else
        match links with
        | 0 => .error .linkLoop
        | links + 1 =>
          followSteps root last links (if target.isAbsolute then [] else folder)
            (steps target ++ rest)

/-- Whether the system accepts the text of a path at all. -/
def checkPath (path : Path) : Except IoError Unit :=
  if path.text.toList.contains '\x00' then .error .nulInPath
  else if path.text.toList.isEmpty then .error .noEntry
  else if maxPathBytes < (Utf8.encode path.text).length then .error .nameTooLong
  else .ok ()

/-- Where a path leads. A symbolic link that is its last step is followed only if `last` says
so. -/
def follow (fs : FileSystem) (path : Path) (last : Bool) : Except IoError Destination := do
  checkPath path
  followSteps fs.root last maxLinks (if path.isAbsolute then [] else fs.workingDirectory)
    (steps path)

/-- Where a path leads if separators at its end ask for nothing. A symbolic link that is its last
step is not followed. -/
def followName (fs : FileSystem) (path : Path) : Except IoError Destination := do
  checkPath path
  followSteps fs.root false maxLinks (if path.isAbsolute then [] else fs.workingDirectory)
    (takenSteps path)

/-- The place that a path leads to. -/
def locate (fs : FileSystem) (path : Path) (last : Bool := true) : Except IoError Location :=
  match fs.follow path last with
  | .ok (.found location) => .ok location
  | .ok (.free _ _ _) => .error .noEntry
  | .error error => .error error

/-- The node that a path leads to, with its location. -/
def find (fs : FileSystem) (path : Path) (last : Bool := true) :
    Except IoError (Location × Node) :=
  match fs.locate path last with
  | .error error => .error error
  | .ok location =>
    match fs.root.get? location with
    | some node => .ok (location, node)
    | none => .error .noEntry

/-- Whether a path leads to a regular file. -/
def isFile (fs : FileSystem) (path : Path) : Bool :=
  match fs.find path with
  | .ok (_, node) => node.isFile
  | .error _ => false

/-- Whether a path leads to a folder. -/
def isFolder (fs : FileSystem) (path : Path) : Bool :=
  match fs.find path with
  | .ok (_, .folder _) => true
  | _ => false

/-- Whether a path leads to anything; a symbolic link that leads nowhere counts. -/
def holds (fs : FileSystem) (path : Path) : Bool :=
  match fs.locate path false with
  | .ok _ => true
  | .error _ => false

end FileSystem
end ReleasePacker
