import ReleasePacker.FileSystem.Changes
import ReleasePacker.Program
import ReleasePacker.Shell.Programs

/-!
# The command

The command takes a picture of the folders that a run works in, lets the packager run on the
picture, and then brings the folders up to date. Programs are run from the picture as well, so
they are scripts in the folders of `PATH`.
-/

namespace ReleasePacker.Picture

/-- The names that lead to an absolute path that goes through no symbolic links. -/
def namesOf (path : Path) : Location :=
  path.pieces.foldl
    (fun names piece =>
      if piece = "" || piece = "." then names
      else if piece = ".." then names.dropLast
      else names ++ [piece])
    []

/-- The absolute path of a location. -/
def pathOf (location : Location) : String := "/" ++ Text.joinWith "/" location

/-- The folders that a run works in: those of the project, of what is built, and of the archive. -/
def neededFolders (words : List String) (context : ProcessContext) : List Path :=
  match readCommandLine words with
  | .ok options =>
    let root := options.projectDirectory context
    [root, root / context.cargoTargetDir.getD ⟨"target"⟩,
      anchored context.workingDirectory options.outputDir]
  | .error _ => []

/-- The permission bits of a file: scripts can be run. -/
def modeOf (content : ByteArray) : Nat :=
  if content.toList.take 2 = [0x23, 0x21] then 0o755 else 0o644

/-- The longest file that a picture holds, in bytes. -/
def maxFileBytes : Nat := 0x4000000

/-- The longest script that a picture holds, in bytes. -/
def maxScriptBytes : Nat := 0x10000

/-- The entries of a folder; files that are longer than the limit and folders that cannot be listed
are left out. -/
partial def readFolder (limit : Nat) (folder : String) : IO (List (String × Node)) := do
  let top ← IO.currentDir
  let .ok entries ← (top / folder).readDir.toBaseIO | return []
  let mut found := []
  for entry in entries do
    let place := folder ++ "/" ++ entry.fileName
    if let .ok facts ← (top / place).symlinkMetadata.toBaseIO then
      if facts.type == .dir then
        found := (entry.fileName, Node.folder (← readFolder limit place)) :: found
      else if facts.byteSize.toNat ≤ limit then
        let file ← match ← (IO.FS.readBinFile place).toBaseIO with
          | .ok content => pure (Node.file (modeOf content) content.toList)
          | .error error =>
            pure (Node.broken (modeOf .empty) [] (.described .other (some (toString error))))
        found := (entry.fileName, file) :: found
  return found.reverse

/-- The locations that are in none of the others. -/
def outermost (locations : List Location) : List Location :=
  locations.eraseDups.filter fun location =>
    !locations.any fun other => other ≠ location && other.isPrefixOf location

/-- The picture with a folder in it, if there is one and the picture has none at its location. -/
def withFolder (limit : Nat) (root : Node) (location : Location) : IO Node := do
  if (root.get? location).isSome then return root
  if !(← ((← IO.currentDir) / pathOf location).isDir) then return root
  return root.graft location (.folder (← readFolder limit (pathOf location)))

/-- The rights that the low three permission bits give. -/
def rightsOf (bits : Nat) : IO.AccessRight :=
  { read := bits / 4 % 2 = 1, write := bits / 2 % 2 = 1, execution := bits % 2 = 1 }

/-- Takes one step in bringing the folders up to date. A run makes no links. -/
def apply (change : Change) : IO Unit := do
  let top ← IO.currentDir
  match change with
  | .remove location =>
    let place := pathOf location
    if ← (top / place).isDir then IO.FS.removeDirAll place else IO.FS.removeFile place
  | .makeFolder location => IO.FS.createDirAll (pathOf location)
  | .makeLink _ _ => return ()
  | .writeFile location mode content =>
    let place := pathOf location
    IO.FS.writeBinFile place ⟨content.toArray⟩
    IO.setAccessRights place ⟨rightsOf (mode / 64), rightsOf (mode / 8), rightsOf mode⟩

/-- The variables of the environment that count. -/
def variableNames : List String :=
  ["PATH", "HOME", "TMPDIR", "TARGET", "CRATE_NAME", "RELEASE_TAG", "TRAVIS_TAG", "CARGO_HOME",
    "CARGO_TARGET_DIR"]

/-- The variables that are set. -/
def readVariables : IO (List (String × String)) :=
  variableNames.filterMapM fun name => do
    return (← IO.getEnv name).map fun value => (name, value)

/-- Six characters for a temporary name. -/
def uniqueText (seed attempt : Nat) : String :=
  let letters := "abcdefghijklmnopqrstuvwxyz".toList
  String.ofList ((List.range 6).map fun place =>
    letters.getD ((seed + attempt) / Nat.pow 26 place % 26) 'a')

/-- The surroundings of a run on a picture. -/
def platform (seed : Nat) (environment : List (String × String)) : Platform where
  uniqueText := uniqueText seed
  listingOrder := id
  listingOrder_perm names := .refl names
  temporaryFolder := ⟨(environment.lookup "TMPDIR").getD "/tmp"⟩
  architecture := "x86_64"
  operatingSystem := "linux"
  acceptsLine := fun _ => true

/-- The packager with scripts as programs and without a network. -/
def program (platform : Platform) (context : ProcessContext)
    (environment : List (String × String)) : Program Unit where
  platform := platform
  context := context
  executor folder timeout := Executor.system
    { folder := some folder, timeout := timeout.map (· * 1000), environment }
  downloader := ⟨fun url _ _ files => (.error (.http url "no network"), (), files)⟩
  stdoutFault := none

/-- A failure of a stream. -/
def failureOf : IO.Error → IoError
  | .resourceVanished code _ => .system code.toNat
  | .resourceExhausted _ code _ => .system code.toNat
  | error => .described .other (some (toString error))

/-- Writes bytes to a stream, and tells how that fails if the stream does not take them. -/
def send (stream : IO.FS.Stream) (bytes : Bytes) : IO (Option IoError) := do
  match ← (do stream.write ⟨bytes.toArray⟩; stream.flush : IO Unit).toBaseIO with
  | .ok () => return none
  | .error error => return some (failureOf error)

/-- The name of the working directory. -/
def workingDirectory : IO (Except IoError Bytes) := do
  match ← IO.currentDir.toBaseIO with
  | .ok folder => return .ok (Utf8.encode folder.toString)
  | .error error => return .error (.described .other (some (toString error)))

/-- The folders that a run works in, and those with the programs that it runs. -/
def take (words : List String) (context : ProcessContext) (temporaryFolder : Path)
    (programFolders : List Path) : IO Node := do
  let work := outermost ((neededFolders words context).map namesOf)
  let root ← work.foldlM (withFolder maxFileBytes) (.folder Shell.systemTree)
  let root ← (programFolders.map namesOf).foldlM (withFolder maxScriptBytes) root
  let temporary := namesOf temporaryFolder
  return if (root.get? temporary).isSome then root else root.graft temporary (.folder [])

/-- Runs the packager and answers the exit status of the process. -/
def run (words : List String) : IO UInt32 := do
  let environment ← readVariables
  let lookup (name : String) : Option String := environment.lookup name
  let home : Path := ⟨(lookup "HOME").getD "/root"⟩
  let surroundings := ProcessContext.ofProcess (← workingDirectory) home lookup
  let platform := platform (← IO.rand 0 (Nat.pow 26 6 - 1)) environment
  let programFolders :=
    (Text.splitAt ':' ((lookup "PATH").getD "").toList).map
      fun folder => Path.mk (String.ofList folder)
  -- Without a working directory nothing is resolved, so there is nothing to take a picture of.
  let (context, root) ← match surroundings with
    | .ok context => pure (context, ← take words context platform.temporaryFolder programFolders)
    | .error _ => pure ({ workingDirectory := ⟨"/"⟩, home }, Node.folder Shell.systemTree)
  let outcome := (program platform context environment).start surroundings words
    { files := { root, workingDirectory := namesOf context.workingDirectory }, outside := () }
  (Change.between [] root.children outcome.world.files.root.children).forM apply
  let _ ← send (← IO.getStderr) outcome.world.errorStream
  match ← send (← IO.getStdout) (Utf8.encode outcome.stdout) with
  | none => return outcome.processCode.toUInt32
  | some fault =>
    let error := ReleaseError.reportWrite fault
    let _ ← send (← IO.getStderr) (Utf8.encode (error.report ++ "\n"))
    return error.exitCode.toNat.toUInt32

end ReleasePacker.Picture

/-- The command. -/
def main (words : List String) : IO UInt32 := ReleasePacker.Picture.run words
