import ReleasePacker.Proofs.Archive
import ReleasePacker.Proofs.Archive.Unpacking

/-!
# Extracting an executable

The search and the writing together. What is answered can be told from the list of members as a
whole, and nothing but the place of the executable is written to. If extraction fails, that place
mostly holds what it did before, but not always: a member whose data breaks off has been written by
then as far as it goes, so an older executable is lost.
-/

namespace ReleasePacker

variable {files : FileSystem} {archive : Path} {bytes : Bytes} {name : String} {folder : Path}

/-- What comes of a member that is to be written into a folder under a name. -/
structure Extracted (files : FileSystem) (found : Tar.Entry) (name : String) (folder : Path)
    (ended : Except ExtractionError Path × FileSystem) : Prop where
  /-- The answer is the path of the executable, which has all the data of the member; in the oldest
  layout a name that ends with a separator asks for a folder. -/
  answered : ∀ path, ended.1 = .ok path → path = folder / name ∧
    (¬ found.StandsForFolder → found.isWhole = true ∧
      ∃ place, ended.2.find (folder / name) = .ok (place, .file executableMode found.data)) ∧
    (found.StandsForFolder → ended.2.isFolder (folder / name) = true)
  /-- Only reading and writing can fail. -/
  failed : ∀ error, ended.1 = .error error → ∃ source, error = .io source
  /-- With room for it, a whole member is written. -/
  succeeds : ∀ made place, HasRoom files folder name made place → found.isWhole = true →
    ¬ found.StandsForFolder → ended.1 = .ok (folder / name)

namespace InstallEnding

variable {entry : Tar.Entry} {ended : Except ExtractionError Path × FileSystem}

/-- Beside folders that were missing, only the place under the name is different. -/
theorem confined (ending : InstallEnding files entry name folder ended) :
    ∃ made, FoldersMade (FileSystem.ancestors folder) files made ∧
      Confined made (folder / name) ended.2 := by
  cases ending with
  | unwritten source made folders => exact ⟨made, folders, .refl _ _⟩
  | unlinked source made place link folders addresses there proper =>
    exact ⟨made, folders, .of_erase addresses there proper⟩
  | broken made place after folders addresses replaced =>
    exact ⟨made, folders, .of_replaced addresses replaced⟩
  | installed made place after folders addresses replaced =>
    exact ⟨made, folders, .of_replaced addresses replaced⟩
  | folder made after folders confined => exact ⟨made, folders, confined⟩

end InstallEnding

theorem extracted_installEntry (plain : Path.IsName name) (files : FileSystem) (entry : Tar.Entry)
    (folder : Path) :
    Extracted files entry name folder (installEntry files entry name folder) where
  answered path success := by
    have ending := installEntry_spec plain files entry folder
    generalize installEntry files entry name folder = ended at ending success
    cases ending with
    | unwritten => cases success
    | unlinked => cases success
    | broken => cases success
    | installed made place after _ _ _ found whole plainFile =>
      cases success
      exact ⟨rfl, fun _ => ⟨whole, place, found⟩, fun asked => absurd asked plainFile⟩
    | folder made after _ _ inside asked =>
      cases success
      exact ⟨rfl, fun plainFile => absurd asked plainFile, fun _ => inside⟩
  failed error failure := by
    have ending := installEntry_spec plain files entry folder
    generalize installEntry files entry name folder = ended at ending failure
    cases ending <;> cases failure <;> exact ⟨_, rfl⟩
  succeeds _ _ room whole plainFile := room.installEntry plain whole plainFile

theorem extractExecutable_of_contentOf (readable : files.contentOf archive = .ok bytes)
    (name : String) (folder : Path) :
    extractExecutable files archive name folder =
      match findEntry name (archiveContents bytes).clean (archiveContents bytes).entries with
      | .error error => (.error error, files)
      | .ok entry => installEntry files entry name folder := by
  cases searched : findEntry name (archiveContents bytes).clean (archiveContents bytes).entries <;>
    simp only [extractExecutable, readable, searched]

/-- Only a member of the name is written, and this name is one that a folder can hold. -/
theorem isName_of_find {entries : List Tar.Entry} {found : Tar.Entry}
    (first : entries.find? (fun entry => entry.IsWanted name) = some found) :
    Path.IsName name := by
  have wanted := List.find?_some first
  exact (of_decide_eq_true wanted).2.1

/-- Extraction, told from the list of members. Of the members up to the first regular file of the
name, the first that leads out of the archive is refused; without one, that file is written; if
there is neither, the name is not found. What stands behind does not matter, and nothing is changed
but the place that is written to. -/
theorem extractExecutable_spec (readable : files.contentOf archive = .ok bytes) (name : String)
    (folder : Path) :
    (∀ out, (Tar.lookedAt name (archiveContents bytes).entries).find?
        (fun entry => entry.LeadsOut) = some out →
      extractExecutable files archive name folder =
        (.error (.pathTraversal out.path.text), files)) ∧
    ((∀ entry ∈ Tar.lookedAt name (archiveContents bytes).entries, ¬ entry.LeadsOut) →
      (∀ found, (archiveContents bytes).entries.find? (fun entry => entry.IsWanted name) =
          some found →
        Extracted files found name folder (extractExecutable files archive name folder)) ∧
      ((∀ entry ∈ (archiveContents bytes).entries, ¬ entry.IsWanted name) →
        extractExecutable files archive name folder =
          (.error (if (archiveContents bytes).clean then .entryNotFound name
            else .io damagedArchive), files))) ∧
    (∀ other bytes' before found after after', files.contentOf other = .ok bytes' →
      (archiveContents bytes).entries = before ++ found :: after →
      (archiveContents bytes').entries = before ++ found :: after' →
      found.LeadsOut ∨ found.IsWanted name →
      extractExecutable files other name folder = extractExecutable files archive name folder) ∧
    ∃ made, FoldersMade (FileSystem.ancestors folder) files made ∧
      Confined made (folder / name) (extractExecutable files archive name folder).2 := by
  have searched := findEntry_eq name (archiveContents bytes).clean (archiveContents bytes).entries
  refine ⟨fun out first => ?_, fun inside => ⟨fun found first => ?_, fun unwanted => ?_⟩,
    fun other bytes' before found after after' readable' entries entries' ends => ?_, ?_⟩
  · rw [extractExecutable_of_contentOf readable, searched, first]
  · have within : (Tar.lookedAt name (archiveContents bytes).entries).find?
        (fun entry => entry.LeadsOut) = none := by
      simpa using inside
    rw [extractExecutable_of_contentOf readable, searched, within, first]
    exact extracted_installEntry (isName_of_find first) files found folder
  · have within : (Tar.lookedAt name (archiveContents bytes).entries).find?
        (fun entry => entry.LeadsOut) = none := by
      simpa using inside
    have nowhere : (archiveContents bytes).entries.find? (fun entry => entry.IsWanted name) =
        none := by
      simpa using unwanted
    rw [extractExecutable_of_contentOf readable, searched, within, nowhere]
  · rw [extractExecutable_of_contentOf readable, extractExecutable_of_contentOf readable', entries,
      entries', findEntry_append ends before after' after]
  · rw [extractExecutable_of_contentOf readable]
    cases searched :
        findEntry name (archiveContents bytes).clean (archiveContents bytes).entries with
    | error error => exact ⟨files, .refl _ _, .refl _ _⟩
    | ok entry =>
      have plain := isName_of_find (find?_of_findEntry searched)
      exact (installEntry_spec plain files entry folder).confined

/-- An archive and an older executable beside it. -/
def withTool (archive : Bytes) : FileSystem where
  root := .folder
    [("cross.tar.gz", .file 0o644 archive),
     ("bin", .folder [("cross", .file 0o755 [1])])]

theorem contentOf_withTool (archive : Bytes) :
    (withTool archive).contentOf ⟨"/cross.tar.gz"⟩ = .ok archive := rfl

theorem hasRoom_withTool (archive : Bytes) :
    HasRoom (withTool archive) ⟨"/bin"⟩ "cross" (withTool archive) ["bin", "cross"] where
  making := rfl
  addresses := .inl rfl
  noFolder folder := by cases folder
  apart link there := by cases there

/-- The executable taken from the archive in place of the older one. -/
def extractTool (archive : Bytes) : Except ExtractionError Path × FileSystem :=
  extractExecutable (withTool archive) ⟨"/cross.tar.gz"⟩ "cross" ⟨"/bin"⟩

/-- An archive in which the executable stands deeper, behind another file. -/
def nestedArchive : Bytes :=
  Gzip.pack (Tar.write
    [⟨"cross-1.0/README", 0o644, [35]⟩, ⟨"cross-1.0/cross", 0o644, [2, 3, 4]⟩])

theorem extractExecutable_spec_nested :
    (withTool nestedArchive).contentOf ⟨"/cross.tar.gz"⟩ = .ok nestedArchive ∧
      (extractTool nestedArchive).1 = .ok ((⟨"/bin"⟩ : Path) / "cross") ∧
      ∃ place, (extractTool nestedArchive).2.find ((⟨"/bin"⟩ : Path) / "cross") =
        .ok (place, .file 0o755 [2, 3, 4]) := by
  have readable := contentOf_withTool nestedArchive
  have contents : archiveContents nestedArchive =
      ⟨[Tar.Member.entry ⟨"cross-1.0/README", 0o644, [35]⟩,
        Tar.Member.entry ⟨"cross-1.0/cross", 0o644, [2, 3, 4]⟩], true⟩ :=
    archiveContents_pack (by decide) (by decide +kernel)
  obtain ⟨-, inside, -⟩ := extractExecutable_spec readable "cross" ⟨"/bin"⟩
  rw [contents] at inside
  obtain ⟨taken, -⟩ := inside (by decide +kernel)
  have extracted := taken (Tar.Member.entry ⟨"cross-1.0/cross", 0o644, [2, 3, 4]⟩) rfl
  have success := extracted.succeeds _ _ (hasRoom_withTool _) rfl (by decide)
  obtain ⟨-, executable, -⟩ := extracted.answered _ success
  exact ⟨readable, success, (executable (by decide)).2⟩

/-! ## What a failure leaves behind -/

/-- What a failed extraction leaves behind, beside folders that were missing and are made. -/
inductive FailedEnding (files : FileSystem) (archive : Path) (name : String) (folder : Path) :
    ExtractionError → FileSystem → Prop
  /-- Nothing was written. -/
  | untouched (error : ExtractionError) (made : FileSystem)
    (folders : FoldersMade (FileSystem.ancestors folder) files made) :
    FailedEnding files archive name folder error made
  /-- A link was taken away by way of which the folder was reached. -/
  | unlinked (error : ExtractionError) (made : FileSystem) (place : Location) (link : Path)
    (folders : FoldersMade (FileSystem.ancestors folder) files made)
    (addresses : made.Addresses (folder / name) place)
    (there : made.entryAt place = some (.link link)) (proper : place ≠ []) :
    FailedEnding files archive name folder error (made.erase place)
  /-- The data of the member breaks off, and what can be read of it stands in the place. -/
  | broken (bytes : Bytes) (found : Tar.Entry) (made : FileSystem) (place : Location)
    (after : FileSystem) (readable : files.contentOf archive = .ok bytes)
    (first : (archiveContents bytes).entries.find? (fun entry => entry.IsWanted name) = some found)
    (damaged : found.isWhole = false)
    (folders : FoldersMade (FileSystem.ancestors folder) files made)
    (addresses : made.Addresses (folder / name) place)
    (replaced : Replaced made place FileSystem.defaultMode found.data after) :
    FailedEnding files archive name folder (.io damagedArchive) after

namespace FailedEnding

variable {error : ExtractionError} {after : FileSystem}

/-- If the data of the member is whole, a failure leaves every file as it was. -/
theorem file_kept (ending : FailedEnding files archive name folder error after)
    (whole : ∀ bytes found, files.contentOf archive = .ok bytes →
      (archiveContents bytes).entries.find? (fun entry => entry.IsWanted name) = some found →
      found.isWhole = true) {location : Location} {mode : Nat} {content : Bytes}
    (file : files.entryAt location = some (.file mode content)) :
    after.entryAt location = some (.file mode content) := by
  have held : files.entryAt location ≠ none := by
    rw [file]
    exact nofun
  cases ending with
  | untouched _ made folders => exact (folders.kept held).trans file
  | unlinked _ made place link folders addresses there proper =>
    have kept := (folders.kept held).trans file
    rw [FileSystem.entryAt_erase proper, if_neg, kept]
    -- Where a link is, there is no file, neither there nor further down.
    rintro ⟨back, rfl⟩
    by_cases same : back = []
    · rw [same, List.append_nil] at kept
      cases there.symm.trans kept
    · have nothing := FileSystem.entryAt_of_ne_folder (by rw [there]; exact nofun) same
      cases nothing.symm.trans kept
  | broken bytes found made place after readable first damaged =>
    cases damaged.symm.trans (whole bytes found readable first)

end FailedEnding

theorem extractExecutable_failed {error : ExtractionError}
    (failed : (extractExecutable files archive name folder).1 = .error error) :
    FailedEnding files archive name folder error
      (extractExecutable files archive name folder).2 := by
  cases readable : files.contentOf archive with
  | error source =>
    rw [extractExecutable, readable]
    exact .untouched error files (.refl _ _)
  | ok bytes =>
    rw [extractExecutable_of_contentOf readable] at failed ⊢
    cases searched :
        findEntry name (archiveContents bytes).clean (archiveContents bytes).entries with
    | error => exact .untouched error files (.refl _ _)
    | ok entry =>
      rw [searched] at failed
      have first := find?_of_findEntry searched
      have ending := installEntry_spec (isName_of_find first) files entry folder
      dsimp only at failed ⊢
      generalize installEntry files entry name folder = ended at ending failed
      cases ending with
      | unwritten source made folders => exact .untouched error made folders
      | unlinked source made place link folders addresses there proper =>
        exact .unlinked error made place link folders addresses there proper
      | broken made place after folders addresses replaced damaged =>
        cases failed
        exact .broken bytes entry made place after readable first damaged folders addresses replaced
      | installed => cases failed
      | folder => cases failed

/-- An archive whose only file breaks off after two of its three bytes. -/
def brokenArchive : Bytes :=
  Gzip.pack ((Tar.write [⟨"cross", 0o755, [2, 3, 4]⟩]).take 514)

theorem extractTool_brokenArchive :
    (extractTool brokenArchive).1 = .error (.io damagedArchive) ∧
      (withTool brokenArchive).contentOf ⟨"/bin/cross"⟩ = .ok [1] ∧
      (extractTool brokenArchive).2.contentOf ⟨"/bin/cross"⟩ = .ok [2, 3] := by
  have contents : archiveContents brokenArchive =
      Tar.read ⟨(Tar.write [⟨"cross", 0o755, [2, 3, 4]⟩]).take 514, true⟩ := by
    rw [archiveContents, brokenArchive, Gzip.unpack_pack]
  rw [extractTool, extractExecutable_of_contentOf (contentOf_withTool brokenArchive), contents]
  decide +kernel

theorem extractExecutable_failed_broken :
    (extractTool brokenArchive).1 = .error (.io damagedArchive) ∧
      FailedEnding (withTool brokenArchive) ⟨"/cross.tar.gz"⟩ "cross" ⟨"/bin"⟩
        (.io damagedArchive) (extractTool brokenArchive).2 :=
  ⟨extractTool_brokenArchive.1, extractExecutable_failed extractTool_brokenArchive.1⟩

/-- A failed extraction may leave half of a new executable in place of an old one. -/
theorem not_extractExecutable_keeps :
    ¬ ∀ (files : FileSystem) (archive : Path) (name : String) (folder : Path)
      (error : ExtractionError), (extractExecutable files archive name folder).1 = .error error →
      (extractExecutable files archive name folder).2.contentOf (folder / name) =
        files.contentOf (folder / name) := by
  intro keeps
  obtain ⟨failed, old, new⟩ := extractTool_brokenArchive
  have same := keeps (withTool brokenArchive) ⟨"/cross.tar.gz"⟩ "cross" ⟨"/bin"⟩ _ failed
  cases new.symm.trans (same.trans old)

end ReleasePacker
