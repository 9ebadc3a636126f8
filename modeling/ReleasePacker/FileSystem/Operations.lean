import ReleasePacker.FileSystem.Lookup

/-!
# Changing the tree of files

Each operation either fails and changes nothing, or answers the changed tree. Two can fail half way
and always answer a tree: making a chain of folders, where those made before a failure stay, and
copying a file, where what was copied before a failure stays.

## Main definitions

* `FileSystem.contentOf`, `FileSystem.listFolder` — looking
* `FileSystem.makeFolder`, `FileSystem.makeFolders` — new folders, with or without those above
* `FileSystem.createNew`, `FileSystem.writeFile`, `FileSystem.copyFile` — filling files
* `FileSystem.rename`, `FileSystem.removeFile`, `FileSystem.removeTree` — moving and removing
* `FileSystem.setMode` — permission bits
-/

namespace ReleasePacker.FileSystem

/-- The permission bits of a file created without any given. -/
def defaultMode : Nat := 0o644

/-- The tree with an entry put into a folder. -/
def put (fs : FileSystem) (folder : Location) (name : String) (node : Node) : FileSystem :=
  { fs with root := fs.root.alter (Node.insertChild name node) folder }

/-- The tree with the node at a location replaced. -/
def replace (fs : FileSystem) (location : Location) (node : Node) : FileSystem :=
  { fs with root := fs.root.alter (fun _ => node) location }

/-- The tree without what is at a location; the top stays. -/
def erase (fs : FileSystem) (location : Location) : FileSystem :=
  match location.getLast? with
  | none => fs
  | some name => { fs with root := fs.root.alter (Node.eraseChild name) location.dropLast }

/-- The content of the file that a path leads to. -/
def contentOf (fs : FileSystem) (path : Path) : Except IoError Bytes :=
  match fs.find path with
  | .ok (_, .file _ content) => .ok content
  | .ok (_, .broken _ _ error) => .error error
  | .ok (_, .folder _) => .error .isDirectory
  | .ok (_, .link _) => .error .linkLoop
  | .error error => .error error

/-- What the folder that a path leads to holds. -/
def listFolder (fs : FileSystem) (path : Path) : Except IoError (List (String × Node)) :=
  match fs.find path with
  | .ok (_, .folder children) => .ok children
  | .ok _ => .error .notDirectory
  | .error error => .error error

/-- Makes a folder in a folder that exists. The path may end in separators, but not go on with a
single dot from the name of the new folder. -/
def makeFolder (fs : FileSystem) (path : Path) : Except IoError FileSystem :=
  match fs.followName path with
  | .ok (.found _) => .error .entryExists
  | .ok (.free _ _ true) => .error .noEntry
  | .ok (.free folder name false) => .ok (fs.put folder name (.folder []))
  | .error error => .error error

/-- Makes a folder, or accepts that there is one. -/
def ensureFolder (fs : FileSystem) (path : Path) : Except IoError FileSystem :=
  match fs.makeFolder path with
  | .ok made => .ok made
  | .error error => if fs.isFolder path then .ok fs else .error error

/-- Makes the folders of a chain of paths, given from the innermost outwards, where one is
missing because the next one further out is. Folders made before a failure stay. -/
def makeChain (fs : FileSystem) : List Path → Except IoError Unit × FileSystem
  | [] => (.ok (), fs)
  | path :: outer =>
    match fs.makeFolder path with
    | .ok made => (.ok (), made)
    | .error error =>
      if error = .noEntry then
        match fs.makeChain outer with
        | (.error outerError, left) => (.error outerError, left)
        | (.ok (), left) =>
          match left.ensureFolder path with
          | .ok made => (.ok (), made)
          | .error innerError => (.error innerError, left)
      else if fs.isFolder path then (.ok (), fs)
      else (.error error, fs)

/-- A path and those above it, innermost first; the empty path and the root are left out. -/
def ancestors (path : Path) : List Path :=
  let parts := path.components
  (List.range parts.length).filterMap fun dropped =>
    let kept := parts.take (parts.length - dropped)
    if kept = [.root] then none
    else if dropped = 0 then some path
    else some (Path.ofComponents kept)

/-- Makes a folder and those above it that are missing. -/
def makeFolders (fs : FileSystem) (path : Path) : Except IoError Unit × FileSystem :=
  fs.makeChain (ancestors path)

/-- Creates an empty file under a name that nothing has. -/
def createNew (fs : FileSystem) (path : Path) (mode : Nat := defaultMode) :
    Except IoError FileSystem :=
  match fs.follow path false with
  | .ok (.found _) => .error .entryExists
  | .ok (.free _ _ true) => .error .isDirectory
  | .ok (.free folder name false) => .ok (fs.put folder name (.file mode []))
  | .error error => .error error

/-- Writes a file: an existing one keeps its permission bits and gets new content. -/
def writeFile (fs : FileSystem) (path : Path) (content : Bytes) (mode : Nat := defaultMode) :
    Except IoError FileSystem :=
  match fs.follow path true with
  | .ok (.found location) =>
    match fs.root.get? location with
    | some (.file old _) | some (.broken old _ _) => .ok (fs.replace location (.file old content))
    | some (.folder _) => .error .isDirectory
    | _ => .error .linkLoop
  | .ok (.free _ _ true) => .error .isDirectory
  | .ok (.free folder name false) => .ok (fs.put folder name (.file mode content))
  | .error error => .error error

/-- Gives the file that a path leads to other permission bits. -/
def setMode (fs : FileSystem) (path : Path) (mode : Nat) : Except IoError FileSystem :=
  match fs.find path with
  | .ok (location, .file _ content) => .ok (fs.replace location (.file mode content))
  | .ok (location, .broken _ readable error) =>
    .ok (fs.replace location (.broken mode readable error))
  | .ok _ => .ok fs
  | .error error => .error error

/-- Goes on with a changed tree; where the change has failed, the tree stays as it is. -/
def proceed (fs : FileSystem) (changed : Except IoError FileSystem)
    (next : FileSystem → Except IoError Unit × FileSystem) : Except IoError Unit × FileSystem :=
  match changed with
  | .ok after => next after
  | .error error => (.error error, fs)

/-- Copies the content and the permission bits of a file. The destination is emptied before the
source is read, so a file copied onto itself loses its content, and where copying breaks off, since
the source cannot be read on or the disk is full, the destination keeps what was copied by then. -/
def copyFile (fs : FileSystem) (source target : Path) (shortage : Option Shortage := none) :
    Except IoError Unit × FileSystem :=
  match fs.find source with
  | .error error => (.error error, fs)
  | .ok (location, node) =>
    match node.reading with
    | none =>
      (.error (.described .invalidInput
        (some "the source path is neither a regular file nor a symlink to a regular file")), fs)
    | some opened =>
      fs.proceed (fs.writeFile target [] opened.mode) fun emptied =>
        emptied.proceed (emptied.setMode target opened.mode) fun prepared =>
          let left := ((prepared.root.get? location).bind Node.reading).getD ⟨opened.mode, [], none⟩
          let copied := left.upTo shortage
          prepared.proceed (prepared.writeFile target copied.content opened.mode) fun filled =>
            (copied.result, filled)

/-- Moves a file to another name, in place of a file or a link that has it. -/
def rename (fs : FileSystem) (source target : Path) : Except IoError FileSystem :=
  match fs.find source false with
  | .error error => .error error
  | .ok (location, node) =>
    match fs.follow target false with
    | .error error => .error error
    | .ok (.free _ _ true) => .error .notDirectory
    | .ok (.free folder name false) => .ok ((fs.erase location).put folder name node)
    | .ok (.found other) =>
      if other = location then .ok fs
      else
        match fs.root.get? other, other.getLast? with
        | some (.folder _), _ => .error .isDirectory
        | some _, some name => .ok ((fs.erase location).put other.dropLast name node)
        | _, _ => .error .noEntry

/-- Removes a file or a symbolic link. -/
def removeFile (fs : FileSystem) (path : Path) : Except IoError FileSystem :=
  match fs.find path false with
  | .ok (_, .folder _) => .error .isDirectory
  | .ok (location, _) => .ok (fs.erase location)
  | .error error => .error error

/-- Removes a folder with all it holds; a symbolic link to a folder is removed itself. -/
def removeTree (fs : FileSystem) (path : Path) : Except IoError FileSystem :=
  match fs.find path false with
  | .ok (location, node) =>
    if node.isFile then .error .notDirectory else .ok (fs.erase location)
  | .error error => .error error

/-- Makes a symbolic link under a name that nothing has. -/
def makeLink (fs : FileSystem) (path target : Path) : Except IoError FileSystem :=
  match fs.follow path false with
  | .ok (.found _) => .error .entryExists
  | .ok (.free _ _ true) => .error .noEntry
  | .ok (.free folder name false) =>
    if target.text.toList.isEmpty then .error .noEntry
    else .ok (fs.put folder name (.link target))
  | .error error => .error error

end ReleasePacker.FileSystem
