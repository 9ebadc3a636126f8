import ReleasePacker.Archive.Pack

/-!
# Extracting one executable

One file is taken out of an archive by the name that its path ends in. The paths of all members
before it, and its own, must stay within the archive.
-/

namespace ReleasePacker

/-- Why an executable cannot be extracted. -/
inductive ExtractionError where
  | io (source : IoError)
  /-- A member's path leads out of the archive. -/
  | pathTraversal (path : String)
  | entryNotFound (name : String)
  deriving DecidableEq, Repr

/-- The text shown for a failed extraction. -/
def ExtractionError.message : ExtractionError → String
  | io source => "extraction I/O error: " ++ source.message
  | pathTraversal path => "path traversal detected: " ++ path
  | entryNotFound name => "archive does not contain " ++ name

/-- The permission bits of executables. -/
def executableMode : Nat := 0o755

/-- A failure of unpacking, of which only the text is kept. -/
def unpackFailure (error : IoError) : ExtractionError :=
  .io (.described .other (some ("failed to unpack: " ++ error.message)))

/-- Makes an empty file at a place, where a file or a link may have been. What was there stays
removed if the file then cannot be made. -/
def makeRoom (target : Path) : FileTask Unit := fun files =>
  match files.createNew target with
  | .ok made => (.ok (), made)
  | .error error =>
    if error = .entryExists then
      match files.removeFile target with
      | .error error => (.error error, files)
      | .ok removed =>
        match removed.createNew target with
        | .ok made => (.ok (), made)
        | .error error => (.error error, removed)
    else (.error error, files)

/-- Writes a member to a place. What can be read of the data is written before a fault in it
counts. In the oldest layout a name that ends with a separator is that of a folder. -/
def unpackEntry (files : FileSystem) (entry : Tar.Entry) (target : Path) :
    Except ExtractionError Unit × FileSystem :=
  if entry.layout ≠ .ustar && entry.endsInSeparator then
    match files.ensureFolder target with
    | .ok files => (.ok (), files)
    | .error error => (.error (unpackFailure error), files)
  else
    match makeRoom target files with
    | (.error error, files) => (.error (unpackFailure error), files)
    | (.ok (), files) =>
      match files.writeFile target entry.data with
      | .error error => (.error (unpackFailure error), files)
      | .ok files =>
        if entry.isWhole then (.ok (), files) else (.error (.io damagedArchive), files)

/-- Writes a member into a folder under a name, as an executable. -/
def installEntry (files : FileSystem) (entry : Tar.Entry) (name : String) (folder : Path) :
    Except ExtractionError Path × FileSystem :=
  match files.makeFolders folder with
  | (.error error, files) => (.error (.io error), files)
  | (.ok (), files) =>
    let target := folder / name
    match unpackEntry files entry target with
    | (.error error, files) => (.error error, files)
    | (.ok (), files) =>
      match files.setMode target executableMode with
      | .ok files => (.ok target, files)
      | .error error => (.error (.io error), files)

/-- The first member of a name, or why there is none to be taken: a path before it that leads
out of the archive, damage before it, or none of that name. -/
def findEntry (name : String) (clean : Bool) : List Tar.Entry → Except ExtractionError Tar.Entry
  | [] => .error (if clean then .entryNotFound name else .io damagedArchive)
  | entry :: rest =>
    if entry.path.climbs then .error (.pathTraversal entry.path.text)
    else if entry.isFile && entry.isNamed name then .ok entry
    else findEntry name clean rest

/-- Writes the first member of a name into a folder, as an executable. -/
def extractExecutable (files : FileSystem) (archive : Path) (name : String) (folder : Path) :
    Except ExtractionError Path × FileSystem :=
  match files.contentOf archive with
  | .error error => (.error (.io error), files)
  | .ok bytes =>
    let contents := archiveContents bytes
    match findEntry name contents.clean contents.entries with
    | .error error => (.error error, files)
    | .ok entry => installEntry files entry name folder

end ReleasePacker
