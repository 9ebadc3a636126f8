import ReleasePacker.Archive.Name
import ReleasePacker.Digest.FileDigest
import ReleasePacker.Gzip.Member
import ReleasePacker.Staging
import ReleasePacker.Tar.Reader
import ReleasePacker.Tar.Writer

/-!
# Packing archives

The regular files in a staging folder are packed into a compressed archive. It is put together
in a temporary file beside its final place and then renamed, so a failure leaves no archive that
is not whole.
-/

namespace ReleasePacker

/-- A packed archive. -/
structure ReleaseArchive where
  path : Path
  /-- The names of the files in it, in order. -/
  members : List String
  /-- The digest of the archive, as hexadecimal text. -/
  sha256 : String
  deriving DecidableEq, Repr

/-- The names of the regular files directly in a folder, as a listing gives them. -/
def topLevelFiles (platform : Platform) (files : FileSystem) (folder : Path) :
    Except IoError (List String) :=
  match files.listFolder folder with
  | .error error => .error error
  | .ok children =>
    .ok ((platform.listingOrder (children.map Prod.fst)).filter fun name =>
      match children.lookup name with
      | some node => node.isFile
      | none => false)

/-- A file of a folder as a member of an archive. -/
def memberOf (files : FileSystem) (folder : Path) (name : String) : Except IoError Tar.Member :=
  match files.find (folder / name) with
  | .ok (_, .file mode content) => .ok ⟨name, mode, content⟩
  | .ok (_, .broken _ _ error) => .error error
  | .ok _ => .error .isDirectory
  | .error error => .error error

/-- The compressed archive of files of a folder. -/
def archiveBytes (files : FileSystem) (folder : Path) (names : List String) :
    Except IoError Bytes := do
  let members ← names.mapM (memberOf files folder)
  return Gzip.pack (Tar.write members)

/-- The permission bits of temporary files. -/
def temporaryMode : Nat := 0o600

/-- What the names of unfinished archives start with. -/
def partialFront : String := ".kak-lsp-release-"

/-- What the names of unfinished archives end in. -/
def partialEnding : String := ".partial"

/-- An operation on files that answers and says how they are afterwards, also if it fails. -/
abbrev FileTask (α : Type) := FileSystem → Except IoError α × FileSystem

/-- Puts the archive together in a temporary file and renames it; the temporary file is removed
after a failure. -/
def writeArchive (platform : Platform) (folder : Path) (names : List String)
    (outputDir target : Path) : FileTask Unit := fun files =>
  match files.makeTemporary platform.uniqueText
      (fun files path => files.createNew path temporaryMode) outputDir partialFront partialEnding with
  | .error error => (.error error, files)
  | .ok (unfinished, files) =>
    let finished : Except IoError FileSystem := do
      let bytes ← archiveBytes files folder names
      let written ← files.writeFile unfinished bytes
      written.rename unfinished target
    match finished with
    | .ok files => (.ok (), files)
    | .error error =>
      match files.removeFile unfinished with
      | .ok files => (.error error, files)
      | .error _ => (.error error, files)

/-- Packs the files of a folder into an archive in a folder that is made if it is missing. -/
def packFiles (platform : Platform) (folder outputDir target : Path) :
    FileTask (List String × String) := fun files =>
  match topLevelFiles platform files folder with
  | .error error => (.error error, files)
  | .ok names =>
    match files.makeFolders outputDir with
    | (.error error, files) => (.error error, files)
    | (.ok (), files) =>
      match writeArchive platform folder names outputDir target files with
      | (.error error, files) => (.error error, files)
      | (.ok (), files) =>
        match files.contentOf target with
        | .error error => (.error error, files)
        | .ok content => (.ok (names, Sha256.ofContent content), files)

/-- Packs the files of a staging folder. -/
def packArchive {σ : Type} (platform : Platform) (folder : StagingFolder) (name : ArchiveName)
    (outputDir : Path) : Task σ ReleaseArchive := fun world =>
  let path := outputDir / name.fileName
  match packFiles platform folder.path outputDir path world.files with
  | (.ok (members, sha256), files) => (.ok ⟨path, members, sha256⟩, { world with files })
  | (.error error, files) => (.error (.archiveWrite path error), { world with files })

/-- The contents of a compressed archive. -/
def archiveContents (bytes : Bytes) : Tar.Contents := Tar.read (Gzip.unpack bytes)

/-- A fault in the bytes of an archive. -/
def damagedArchive : IoError := .described .invalidData (some "damaged archive")

/-- The names in an archive, in order. -/
def listMembers (files : FileSystem) (path : Path) : Except IoError (List String) :=
  match files.contentOf path with
  | .error error => .error error
  | .ok bytes =>
    let contents := archiveContents bytes
    if contents.clean then .ok (contents.entries.map fun entry => entry.path.text)
    else .error damagedArchive

end ReleasePacker
