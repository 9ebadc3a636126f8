import ReleasePacker.Archive.Extract
import ReleasePacker.Tool.Settings

/-!
# Making the tool available

The tool is looked for where programs are found and where it would have been installed. Only
then, and only if that is allowed and possible, it is downloaded and installed. Nothing is handed
out that has not just told its version.
-/

namespace ReleasePacker

/-- Why a download fails. -/
inductive DownloadError where
  | http (url reason : String)
  | notFound (url : String)
  | io (source : IoError)
  deriving DecidableEq, Repr

/-- The text shown for a failed download. -/
def DownloadError.message : DownloadError → String
  | http url reason => "download failed for " ++ url ++ ": " ++ reason
  | notFound url => "release asset not found: " ++ url
  | io source => "I/O error writing download: " ++ source.message

/-- A way to fetch what is published at an address into a file. -/
structure Downloader (σ : Type) where
  download : (url : String) → (target : Path) → σ → FileSystem →
    Except DownloadError Unit × σ × FileSystem

/-- A way to make a tool available; the answer is the program to use. -/
structure ToolProvider (σ : Type) where
  ensureInstalled : σ → FileSystem → Except ReleaseError String × σ × FileSystem

/-- What is needed for making the tool available. -/
structure Installer (σ : Type) where
  executor : Executor σ
  downloader : Downloader σ
  settings : ToolSettings
  platform : Platform

namespace Installer

variable {σ : Type}

/-- The failure to make the tool available. -/
def unavailable (installer : Installer σ) (reason : String) : ReleaseError :=
  .toolUnavailable installer.settings.program reason

/-- The command by which a program shows that it works. -/
def versionCommand (program : String) : Command := ⟨program, ["--version"]⟩

/-- Where the tool is once it is installed. -/
def installedPath (installer : Installer σ) (folder : Path) : Path :=
  folder / installer.settings.program

/-- What the names of folders for downloads start with. -/
def downloadFront : String := "kak-lsp-release-tool-"

/-- Fetches what is published at an address. -/
def fetch (installer : Installer σ) (url : String) (target : Path) : Task σ Unit := do
  let world ← get
  let (result, outside, files) :=
    installer.downloader.download url target world.outside world.files
  set { world with outside, files }
  modify (·.record (.downloaded url target))
  match result with
  | .ok () => return ()
  | .error error => throw (installer.unavailable error.message)

/-- Takes the tool out of a fetched archive. -/
def unpack (installer : Installer σ) (url : String) (archive folder : Path) : Task σ Unit := do
  let world ← get
  let (result, files) := extractExecutable world.files archive standardTool folder
  set { world with files }
  match result with
  | .ok _ => return ()
  | .error error =>
    throw (installer.unavailable ("failed to unpack " ++ url ++ ": " ++ error.message))

/-- Makes a fresh folder for a download. -/
def makeDownloadFolder (installer : Installer σ) : Task σ Path := do
  let world ← get
  match world.files.makeTemporary installer.platform.uniqueText FileSystem.makeFolder
      installer.platform.temporaryFolder downloadFront "" with
  | .ok (path, files) =>
    set { world with files }
    return path
  | .error error =>
    throw (installer.unavailable ("failed to create download directory: " ++ error.message))

/-- Downloads the tool and installs it into a folder; the answer is where it is. -/
def install (installer : Installer σ) (folder : Path) : Task σ Path := do
  let platform := installer.platform
  let some asset := assetFor platform.architecture platform.operatingSystem
    | throw (installer.unavailable
        ("no prebuilt release for " ++ platform.architecture ++ "-" ++ platform.operatingSystem ++
          "; install it manually"))
  let url := assetUrl installer.settings.version asset
  let temporary ← installer.makeDownloadFolder
  let archive := temporary / ("cross-" ++ asset ++ ".tar.gz")
  Task.andAlways
    (do
      installer.fetch url archive
      installer.unpack url archive folder)
    (Task.tryChangeFiles fun files => files.removeTree temporary)
  return installer.installedPath folder

/-- Whether the tool is where it would have been installed; the answer is the program if so. -/
def findInstalled (installer : Installer σ) : Task σ (Option String) := do
  match installer.settings.installFolder with
  | none => return none
  | some folder =>
    let program := (installer.installedPath folder).text
    if ← Task.commandSucceeds installer.executor (versionCommand program) then
      return some program
    else return none

/-- The program to use. -/
def ensureInstalled (installer : Installer σ) : Task σ String := do
  let program := installer.settings.program
  if ← Task.commandSucceeds installer.executor (versionCommand program) then return program
  if let some found ← installer.findInstalled then return found
  if installer.settings.skipInstall then
    throw (installer.unavailable "not found and installation is disabled")
  if program ≠ standardTool then
    throw (installer.unavailable
      ("not found; only " ++ standardTool ++ " can be installed automatically"))
  let some folder := installer.settings.installFolder
    | throw (installer.unavailable
        "not found and no install directory is known; set CARGO_HOME")
  let installed ← installer.install folder
  if ← Task.commandSucceeds installer.executor (versionCommand installed.text) then
    return installed.text
  throw (installer.unavailable
    ("installed " ++ installed.text ++ " but `" ++ installed.text ++ " --version` failed"))

/-- An installer as a provider. -/
def provider (installer : Installer σ) : ToolProvider σ where
  ensureInstalled outside files :=
    let (result, world) := installer.ensureInstalled.perform { files, outside }
    (result, world.outside, world.files)

end Installer

namespace Task

variable {σ : Type}

/-- Asks for the tool. -/
def askForTool (provider : ToolProvider σ) : Task σ String := do
  let world ← get
  let (result, outside, files) := provider.ensureInstalled world.outside world.files
  set { world with outside, files }
  modify (·.record (.askedForTool result))
  liftExcept result

end Task
end ReleasePacker
