import ReleasePacker.Proofs.Archive.Extraction
import ReleasePacker.Proofs.Task
import ReleasePacker.Tool.Installer

/-!
# How the tool is made available

The tool is asked for its version under its own name and where it would be installed. If neither
answers, it is downloaded, unless one of five conditions forbids that, and asked again. So what
comes back is always a program that was just run, or a failure that names the tool.
-/

namespace ReleasePacker

/-- Whether an event is a download. -/
def Event.isDownload : Event → Bool
  | .downloaded _ _ => true
  | _ => false

/-- How many downloads were asked for in a world. -/
def World.downloads {σ : Type} (world : World σ) : Nat :=
  world.events.countP Event.isDownload

namespace Installer

variable {σ : Type} (installer : Installer σ) (world : World σ)

/-! ## Looking for the tool -/

/-- What a program answers when it is asked for its version. -/
def versionAnswer (program : String) (world : World σ) : Except ReleaseError Output :=
  (installer.executor.run ⟨program, ["--version"]⟩ world.outside world.files).result

/-- The world after a program was asked for its version. -/
def asked (program : String) (world : World σ) : World σ :=
  Task.afterCommand installer.executor ⟨program, ["--version"]⟩ world

/-- The world after the tool was asked under its own name. -/
def searched : World σ := installer.asked installer.settings.program world

/-- The tool answers under its own name. -/
def IsFound : Prop :=
  Task.succeeded (installer.versionAnswer installer.settings.program world) = true

/-- The world after the tool was also asked where it would be installed, if that is known. -/
def probed : World σ :=
  match installer.settings.installFolder with
  | none => installer.searched world
  | some folder => installer.asked (installer.installedPath folder).text (installer.searched world)

/-- The tool answers where it would be installed. -/
def IsInstalled : Prop :=
  ∃ folder, installer.settings.installFolder = some folder ∧
    Task.succeeded (installer.versionAnswer (installer.installedPath folder).text
      (installer.searched world)) = true

/-- The tool is downloaded: it was not found, may be installed, and can be. -/
structure Download where
  folder : Path
  /-- The published archive. -/
  asset : String
  /-- The fresh folder for the download. -/
  temporary : Path
  /-- The files once that folder is made. -/
  made : FileSystem
  notFound : ¬ installer.IsFound world
  notInstalled : ¬ installer.IsInstalled world
  allowed : installer.settings.skipInstall = false
  standard : installer.settings.program = "cross"
  known : installer.settings.installFolder = some folder
  published : assetFor installer.platform.architecture installer.platform.operatingSystem =
    some asset
  created : (installer.probed world).files.makeTemporary installer.platform.uniqueText
    FileSystem.makeFolder installer.platform.temporaryFolder downloadFront "" =
      .ok (temporary, made)

/-- What is left to be done when the tool was found nowhere. -/
def bootstrap : Task σ String := do
  if installer.settings.skipInstall then
    throw (installer.unavailable "not found and installation is disabled")
  if installer.settings.program ≠ standardTool then
    throw (installer.unavailable
      ("not found; only " ++ standardTool ++ " can be installed automatically"))
  let some folder := installer.settings.installFolder
    | throw (installer.unavailable
        "not found and no install directory is known; set CARGO_HOME")
  let installed ← installer.install folder
  if ← Task.commandSucceeds installer.executor (versionCommand installed.text) then
    return installed.text
  throw (installer.unavailable
    ("installed " ++ installed.text ++ " but `" ++ installed.text ++ " --version` failed"))

variable {installer} {world}

variable (installer) in
theorem ensureInstalled_eq : installer.ensureInstalled = (do
    if ← Task.commandSucceeds installer.executor (versionCommand installer.settings.program) then
      return installer.settings.program
    match ← installer.findInstalled with
    | some found => return found
    | none => installer.bootstrap) := by
  rw [ensureInstalled, bootstrap]
  -- Both sides ask for the same things: what differs is only how the last part is written.
  refine bind_congr fun found => ?_
  cases found with
  | true => rfl
  | false =>
    change (installer.findInstalled >>= _) = (installer.findInstalled >>= _)
    refine bind_congr fun installed => ?_
    cases installed <;> rfl

/-- A program is asked for its version, and whether it answers is all that counts. -/
theorem perform_askVersion (program : String) :
    (Task.commandSucceeds installer.executor (versionCommand program)).perform world =
      (.ok (Task.succeeded (installer.versionAnswer program world)),
        installer.asked program world) :=
  Task.perform_commandSucceeds installer.executor (versionCommand program) world

theorem perform_findInstalled_none (unknown : installer.settings.installFolder = none) :
    installer.findInstalled.perform world = (.ok none, world) := by
  rw [findInstalled, unknown]
  rfl

theorem perform_findInstalled_some {folder : Path}
    (known : installer.settings.installFolder = some folder) :
    installer.findInstalled.perform world =
      (.ok (if Task.succeeded (installer.versionAnswer (installer.installedPath folder).text world)
          then some (installer.installedPath folder).text else none),
        installer.asked (installer.installedPath folder).text world) := by
  rw [findInstalled, known]
  dsimp only
  rw [Task.perform_bind, perform_askVersion]
  cases Task.succeeded _ <;> rfl

theorem perform_of_found (found : installer.IsFound world) :
    installer.ensureInstalled.perform world =
      (.ok installer.settings.program, installer.searched world) := by
  rw [IsFound] at found
  rw [ensureInstalled_eq, Task.perform_bind, perform_askVersion, found]
  rfl

theorem perform_of_installed (unfound : ¬ installer.IsFound world) {folder : Path}
    (known : installer.settings.installFolder = some folder)
    (answered : Task.succeeded (installer.versionAnswer (installer.installedPath folder).text
      (installer.searched world)) = true) :
    installer.ensureInstalled.perform world =
      (.ok (installer.installedPath folder).text, installer.probed world) := by
  rw [IsFound, Bool.not_eq_true] at unfound
  rw [ensureInstalled_eq, Task.perform_bind, perform_askVersion, unfound, probed, known]
  change (installer.findInstalled >>= _).perform (installer.searched world) = _
  rw [Task.perform_bind, perform_findInstalled_some known, answered]
  rfl

theorem perform_of_neither (unfound : ¬ installer.IsFound world)
    (uninstalled : ¬ installer.IsInstalled world) :
    installer.ensureInstalled.perform world =
      installer.bootstrap.perform (installer.probed world) := by
  rw [IsFound, Bool.not_eq_true] at unfound
  rw [ensureInstalled_eq, Task.perform_bind, perform_askVersion, unfound, probed]
  change (installer.findInstalled >>= _).perform (installer.searched world) = _
  cases known : installer.settings.installFolder with
  | none => rw [Task.perform_bind, perform_findInstalled_none known]
  | some folder =>
    have silent : Task.succeeded (installer.versionAnswer (installer.installedPath folder).text
        (installer.searched world)) = false := by
      rw [← Bool.not_eq_true]
      exact fun answered => uninstalled ⟨folder, known, answered⟩
    rw [Task.perform_bind, perform_findInstalled_some known, silent]
    rfl

/-! ## Installing it -/

theorem bootstrap_of_allowed (allowed : installer.settings.skipInstall = false)
    (standard : installer.settings.program = standardTool) {folder : Path}
    (known : installer.settings.installFolder = some folder) :
    installer.bootstrap = (do
      let installed ← installer.install folder
      if ← Task.commandSucceeds installer.executor (versionCommand installed.text) then
        return installed.text
      throw (installer.unavailable ("installed " ++ installed.text ++ " but `" ++
        installed.text ++ " --version` failed"))) := by
  rw [bootstrap, allowed, if_neg Bool.false_ne_true, if_neg (not_not.mpr standard), known]

theorem perform_makeDownloadFolder :
    installer.makeDownloadFolder.perform world =
      match world.files.makeTemporary installer.platform.uniqueText FileSystem.makeFolder
        installer.platform.temporaryFolder downloadFront "" with
      | .ok (path, files) => (.ok path, { world with files })
      | .error error => (.error (installer.unavailable
          ("failed to create download directory: " ++ error.message)), world) := by
  rw [makeDownloadFolder, Task.perform_bind, Task.perform_get]
  dsimp only
  cases world.files.makeTemporary installer.platform.uniqueText FileSystem.makeFolder
    installer.platform.temporaryFolder downloadFront "" <;> rfl

/-- The world after a download, which may have failed. -/
def fetched (installer : Installer σ) (url : String) (target : Path) (world : World σ) : World σ :=
  let (_, outside, files) := installer.downloader.download url target world.outside world.files
  { files, outside, events := world.events ++ [.downloaded url target] }

theorem perform_fetch (url : String) (target : Path) :
    (installer.fetch url target).perform world =
      ((installer.downloader.download url target world.outside world.files).1.mapError
          fun error => installer.unavailable error.message,
        installer.fetched url target world) := by
  rw [fetch, Task.perform_bind, Task.perform_get]
  dsimp only
  rcases reply : installer.downloader.download url target world.outside world.files
    with ⟨_ | _, _, _⟩ <;> simp only [fetched, reply] <;> rfl

theorem perform_unpack (url : String) (archive folder : Path) :
    (installer.unpack url archive folder).perform world =
      (match (extractExecutable world.files archive standardTool folder).1 with
        | .ok _ => .ok ()
        | .error error =>
          .error (installer.unavailable ("failed to unpack " ++ url ++ ": " ++ error.message)),
        { world with files := (extractExecutable world.files archive standardTool folder).2 }) := by
  rw [unpack, Task.perform_bind, Task.perform_get]
  dsimp only
  rcases extractExecutable world.files archive standardTool folder with ⟨_ | _, _⟩ <;> rfl

namespace Download

variable (download : installer.Download world)

/-- Where the archive is published. -/
def url : String := assetUrl installer.settings.version download.asset

/-- Where the archive is downloaded to. -/
def archive : Path := download.temporary / ("cross-" ++ download.asset ++ ".tar.gz")

/-- The world when the download begins. -/
def begun : World σ := { installer.probed world with files := download.made }

/-- What the downloader answers. -/
def reply : Except DownloadError Unit :=
  (installer.downloader.download download.url download.archive download.begun.outside
    download.begun.files).1

/-- The world after the download, which may have failed. -/
def downloaded : World σ := installer.fetched download.url download.archive download.begun

/-- What extraction from what was downloaded comes to. -/
def extraction : Except ExtractionError Path × FileSystem :=
  extractExecutable download.downloaded.files download.archive standardTool download.folder

/-- The world before the temporary folder is removed. -/
def worked : World σ :=
  match download.reply with
  | .ok () => { download.downloaded with files := download.extraction.2 }
  | .error _ => download.downloaded

/-- The world after the temporary folder is removed. -/
def cleaned : World σ :=
  { download.worked with
    files := match download.worked.files.removeTree download.temporary with
      | .ok files => files
      | .error _ => download.worked.files }

/-- What the download and the extraction come to together. -/
def outcome : Except ReleaseError Unit :=
  match download.reply with
  | .error error => .error (installer.unavailable error.message)
  | .ok () =>
    match download.extraction.1 with
    | .ok _ => .ok ()
    | .error error => .error (installer.unavailable
        ("failed to unpack " ++ download.url ++ ": " ++ error.message))

variable {download}

theorem perform_work :
    (Task.andAlways
      (do
        installer.fetch download.url download.archive
        installer.unpack download.url download.archive download.folder)
      (Task.tryChangeFiles fun files => files.removeTree download.temporary)).perform
        download.begun = (download.outcome, download.cleaned) := by
  rw [Task.perform_andAlways, Task.perform_bind, perform_fetch]
  cases replied : download.reply with
  | error error =>
    -- The reply is an abbreviation in some of what follows, and written out in the rest.
    have failed := replied
    rw [reply] at failed
    rw [failed, cleaned, outcome, worked, replied, Task.perform_tryChangeFiles]
    dsimp only [Except.mapError]
    cases removed : download.downloaded.files.removeTree download.temporary <;>
      simp only [downloaded] at removed ⊢ <;> rw [removed]
  | ok _ =>
    have arrived := replied
    rw [reply] at arrived
    rw [arrived, cleaned, outcome, worked, replied, Task.perform_tryChangeFiles]
    dsimp only [Except.mapError]
    rw [perform_unpack]
    cases removed : download.extraction.2.removeTree download.temporary <;>
      simp only [downloaded, extraction] at removed ⊢ <;> rw [removed]

theorem perform_install : (installer.install download.folder).perform (installer.probed world) =
    (download.outcome.map fun _ => installer.installedPath download.folder,
      download.cleaned) := by
  rw [install, download.published]
  dsimp only
  rw [Task.perform_bind, perform_makeDownloadFolder, download.created]
  have work := @perform_work _ _ _ download
  simp only [url, archive, begun] at work
  dsimp only
  rw [Task.perform_bind, work]
  cases download.outcome <;> rfl

/-- A failed download is the end. -/
theorem perform_of_failed {error : ReleaseError} (failed : download.outcome = .error error) :
    installer.ensureInstalled.perform world = (.error error, download.cleaned) := by
  rw [perform_of_neither download.notFound download.notInstalled, bootstrap_of_allowed
    download.allowed download.standard download.known, Task.perform_bind, perform_install, failed]
  rfl

/-- What was installed is asked for its version. -/
theorem perform_of_extracted (worked : download.outcome = .ok ()) :
    ∃ reason, installer.ensureInstalled.perform world =
      (if Task.succeeded (installer.versionAnswer
            (installer.installedPath download.folder).text download.cleaned)
        then .ok (installer.installedPath download.folder).text
        else .error (installer.unavailable reason),
        installer.asked (installer.installedPath download.folder).text download.cleaned) := by
  apply Exists.intro
  rw [perform_of_neither download.notFound download.notInstalled, bootstrap_of_allowed
    download.allowed download.standard download.known, Task.perform_bind, perform_install, worked]
  dsimp only [Except.map]
  rw [Task.perform_bind, perform_askVersion]
  dsimp only
  cases Task.succeeded _ <;> rfl

end Download

/-- Without a download the tool is found, or it is said why it is not available. -/
theorem perform_of_no_download (unfound : ¬ installer.IsFound world)
    (uninstalled : ¬ installer.IsInstalled world) (none : installer.Download world → False) :
    ∃ reason, installer.ensureInstalled.perform world =
      (.error (installer.unavailable reason), installer.probed world) := by
  rw [perform_of_neither unfound uninstalled]
  -- The conditions in the order in which they are checked: when all hold there is a download.
  cases allowed : installer.settings.skipInstall with
  | true =>
    apply Exists.intro
    rw [bootstrap, allowed]
    rfl
  | false =>
  by_cases standard : installer.settings.program = standardTool
  swap
  · apply Exists.intro
    rw [bootstrap, allowed, if_pos standard]
    rfl
  cases known : installer.settings.installFolder with
  | none =>
    apply Exists.intro
    rw [bootstrap, allowed, if_neg (not_not.mpr standard), known]
    rfl
  | some folder =>
    rw [bootstrap_of_allowed allowed standard known]
    cases published : assetFor installer.platform.architecture
      installer.platform.operatingSystem with
    | none =>
      apply Exists.intro
      rw [Task.perform_bind, install, published]
      rfl
    | some asset =>
      rcases created : (installer.probed world).files.makeTemporary installer.platform.uniqueText
        FileSystem.makeFolder installer.platform.temporaryFolder downloadFront ""
        with error | ⟨temporary, made⟩
      · apply Exists.intro
        rw [Task.perform_bind, install, published]
        dsimp only
        rw [Task.perform_bind, perform_makeDownloadFolder, created]
      · exact (none ⟨folder, asset, temporary, made, unfound, uninstalled, allowed, standard,
          known, published, created⟩).elim

/-! ## What is extracted and what is removed -/

namespace Download

variable {download : installer.Download world}

theorem error_of_outcome {error : ReleaseError} (failed : download.outcome = .error error) :
    ∃ reason, error = installer.unavailable reason := by
  rw [outcome] at failed
  split at failed
  · cases failed
    exact ⟨_, rfl⟩
  · split at failed
    · cases failed
    · cases failed
      exact ⟨_, rfl⟩

theorem events_worked : download.worked.events =
    (installer.probed world).events ++ [.downloaded download.url download.archive] := by
  rw [worked]
  cases download.reply <;> rfl

end Download

theorem downloads_of_events {before after : World σ} {more : List Event}
    (events : after.events = before.events ++ more) :
    after.downloads = before.downloads + more.countP Event.isDownload := by
  rw [World.downloads, events, List.countP_append, World.downloads]

theorem downloads_asked (program : String) :
    (installer.asked program world).downloads = world.downloads := by
  have events : (installer.asked program world).events =
      world.events ++ [.ran ⟨program, ["--version"]⟩ (installer.versionAnswer program world)] := rfl
  exact downloads_of_events events

theorem downloads_searched : (installer.searched world).downloads = world.downloads :=
  downloads_asked _

theorem downloads_probed : (installer.probed world).downloads = world.downloads := by
  rw [probed]
  split
  · exact downloads_searched
  · rw [downloads_asked, downloads_searched]

variable (installer) (world) in
/-- The ways in which making the tool available ends. -/
inductive Ending : Except ReleaseError String × World σ → Prop
  | found (found : installer.IsFound world) :
    Ending (.ok installer.settings.program, installer.searched world)
  | installed (unfound : ¬ installer.IsFound world) (folder : Path)
    (known : installer.settings.installFolder = some folder)
    (answered : Task.succeeded (installer.versionAnswer (installer.installedPath folder).text
      (installer.searched world)) = true) :
    Ending (.ok (installer.installedPath folder).text, installer.probed world)
  | refused (reason : String) (none : installer.Download world → False) :
    Ending (.error (installer.unavailable reason), installer.probed world)
  | failed (download : installer.Download world) (error : ReleaseError)
    (failed : download.outcome = .error error) : Ending (.error error, download.cleaned)
  | asked (download : installer.Download world) (reason : String)
    (worked : download.outcome = .ok ()) :
    Ending (if Task.succeeded (installer.versionAnswer
          (installer.installedPath download.folder).text download.cleaned)
        then .ok (installer.installedPath download.folder).text
        else .error (installer.unavailable reason),
      installer.asked (installer.installedPath download.folder).text download.cleaned)

variable (installer) (world) in
theorem ending : installer.Ending world (installer.ensureInstalled.perform world) := by
  by_cases found : installer.IsFound world
  · rw [perform_of_found found]
    exact .found found
  by_cases installed : installer.IsInstalled world
  · obtain ⟨folder, known, answered⟩ := installed
    rw [perform_of_installed found known answered]
    exact .installed found folder known answered
  by_cases possible : Nonempty (installer.Download world)
  · obtain ⟨download⟩ := possible
    cases outcome : download.outcome with
    | error error =>
      rw [Download.perform_of_failed outcome]
      exact .failed download error outcome
    | ok _ =>
      obtain ⟨reason, performed⟩ := Download.perform_of_extracted outcome
      rw [performed]
      exact .asked download reason outcome
  · have none : installer.Download world → False := fun download => possible ⟨download⟩
    obtain ⟨reason, performed⟩ := perform_of_no_download found installed none
    rw [performed]
    exact .refused reason none

namespace Ending

variable {performed : Except ReleaseError String × World σ}

/-- There is one download if there can be, and none otherwise. -/
theorem downloads (ending : installer.Ending world performed) :
    (Nonempty (installer.Download world) → performed.2.downloads = world.downloads + 1) ∧
      (IsEmpty (installer.Download world) → performed.2.downloads = world.downloads ∧
        (performed.2 = installer.searched world ∨ performed.2 = installer.probed world)) := by
  have one (download : installer.Download world) :
      download.cleaned.downloads = world.downloads + 1 := by
    rw [← @downloads_probed _ installer world]
    exact downloads_of_events download.events_worked
  cases ending with
  | found found =>
    exact ⟨fun ⟨download⟩ => absurd found download.notFound,
      fun _ => ⟨downloads_searched, .inl rfl⟩⟩
  | installed _ folder known answered =>
    exact ⟨fun ⟨download⟩ => absurd ⟨folder, known, answered⟩ download.notInstalled,
      fun _ => ⟨downloads_probed, .inr rfl⟩⟩
  | refused reason none =>
    exact ⟨fun ⟨download⟩ => (none download).elim, fun _ => ⟨downloads_probed, .inr rfl⟩⟩
  | failed download => exact ⟨fun _ => one download, fun none => none.elim download⟩
  | asked download =>
    exact ⟨fun _ => (downloads_asked _).trans (one download), fun none => none.elim download⟩

/-- A failure names the tool. -/
theorem failure (ending : installer.Ending world performed) {error : ReleaseError}
    (failed : performed.1 = .error error) :
    ∃ reason, error = .toolUnavailable installer.settings.program reason := by
  cases ending with
  | found => cases failed
  | installed => cases failed
  | refused reason =>
    cases failed
    exact ⟨reason, rfl⟩
  | failed download error outcome =>
    cases failed
    exact Download.error_of_outcome outcome
  | asked download reason =>
    dsimp only at failed
    split at failed
    · cases failed
    · cases failed
      exact ⟨reason, rfl⟩

end Ending

namespace Download

end Download

end Installer
end ReleasePacker
