import ReleasePacker.Proofs.FileSystem.Components
import ReleasePacker.Proofs.Plan
import ReleasePacker.Process.Scripted

/-!
# What releases are called

The name of an archive joins three parts with hyphens, and each part may have hyphens of its own. So
the name tells the pieces between the hyphens, but not which part a piece belongs to: that has to be
known from elsewhere. What it does tell is that the archive lies where it should, since no part can
bring in a separator, and the same holds for the binary that goes into it.
-/

namespace ReleasePacker

/-! ## Plain names -/

/-- A text with a character that is neither a dot nor a separator names an entry of a folder. -/
theorem Path.IsName.of_mem {text : String} {c : Char} (member : c ∈ text.toList)
    (visible : c ≠ '.') (noSeparator : '/' ∉ text.toList) : Path.IsName text where
  nonempty := by
    rintro rfl
    simp at member
  notCurrent := by
    rintro rfl
    simp [visible] at member
  notParent := by
    rintro rfl
    simp [visible] at member
  noSeparator := noSeparator

theorem Path.isName_of_validateName {name : String} (valid : validateName name = .ok ()) :
    Path.IsName name := by
  rw [validateName] at valid
  split at valid
  · cases valid
  next nonempty =>
    split at valid
    · cases valid
    next plain =>
      simp only [Bool.or_eq_true, decide_eq_true_eq, not_or, List.any_eq_true, not_exists,
        not_and] at plain
      refine ⟨?_, plain.1.2, plain.2, fun separator => plain.1.1 '/' separator (by decide)⟩
      rintro rfl
      exact nonempty rfl

theorem VersionLabel.separator_notMem (label : VersionLabel) : '/' ∉ label.text.toList := by
  intro separator
  have wellFormed := label.wellFormed
  rw [isLabel, Bool.and_eq_true, Bool.not_eq_true', Bool.not_eq_true', List.any_eq_false]
    at wellFormed
  exact wellFormed.2 '/' separator (by decide)

theorem TargetTriple.separator_notMem (target : TargetTriple) : '/' ∉ target.text.toList := by
  intro separator
  have wellFormed := target.wellFormed
  rw [faultOf] at wellFormed
  split at wellFormed
  · cases wellFormed
  · split at wellFormed
    · cases wellFormed
    next allowed =>
      exact allowed (List.any_eq_true.mpr ⟨'/', separator, by decide⟩)

/-- A text that is a triple is none of the texts that name no entry. -/
theorem TargetTriple.isName (target : TargetTriple) : Path.IsName target.text := by
  refine ⟨?_, ?_, ?_, target.separator_notMem⟩
  all_goals
    intro same
    have wellFormed := target.wellFormed
    rw [same] at wellFormed
    exact absurd wellFormed (by decide)

theorem TargetTriple.isName_executable (target : TargetTriple) {name : String}
    (plain : Path.IsName name) : Path.IsName (name ++ target.executableSuffix) := by
  rw [executableSuffix]
  split
  · have ending : (name ++ ".exe").toList = name.toList ++ ".exe".toList := String.toList_append ..
    refine .of_mem (c := 'e') ?_ (by decide) ?_ <;> rw [ending]
    · exact List.mem_append_right _ (by decide)
    · rw [List.mem_append, not_or]
      exact ⟨plain.noSeparator, by decide⟩
  · rwa [String.append_empty]

/-! ## The names of archives -/

namespace ArchiveName

/-- The name without its ending, as characters. -/
theorem toList_fileName (archive : ArchiveName) :
    archive.fileName.toList =
      archive.name.toList ++ '-' :: (archive.version.text.toList ++
        '-' :: archive.target.text.toList) ++ archiveExtension.toList := by
  simp [fileName]

theorem isName_fileName {archive : ArchiveName} (noSeparator : '/' ∉ archive.name.toList) :
    Path.IsName archive.fileName := by
  refine .of_mem (c := '-') ?_ (by decide) ?_ <;> rw [toList_fileName]
  · simp
  · simp only [List.mem_append, List.mem_cons, not_or]
    exact ⟨⟨noSeparator, by decide, archive.version.separator_notMem, by decide,
      archive.target.separator_notMem⟩, by decide⟩

/-- The pieces between the hyphens of the three parts, in order. -/
def pieces (archive : ArchiveName) : List (List Char) :=
  TargetTriple.componentsOf archive.name ++ TargetTriple.componentsOf archive.version.text ++
    TargetTriple.componentsOf archive.target.text

theorem componentsOf_injective : Function.Injective TargetTriple.componentsOf :=
  fun _ _ same => String.toList_inj.mp (Text.splitAt_injective same)

/-- The name of an archive tells its pieces and nothing else. -/
theorem fileName_eq_iff (archive other : ArchiveName) :
    archive.fileName = other.fileName ↔ archive.pieces = other.pieces := by
  have stem (archive : ArchiveName) : archive.pieces =
      Text.splitAt '-' (archive.name.toList ++ '-' :: (archive.version.text.toList ++
        '-' :: archive.target.text.toList)) := by
    rw [Text.splitAt_append_cons, Text.splitAt_append_cons, ← List.append_assoc]
    rfl
  rw [stem, stem, Text.splitAt_injective.eq_iff, ← String.toList_inj, toList_fileName,
    toList_fileName, List.append_left_inj]

/-- Two archives share a name exactly if they have the same pieces, whichever part a piece is in.
They are the same archive if besides that their names have equally many pieces, and so have their
targets. -/
theorem eq_iff_fileName (archive other : ArchiveName) :
    (archive.fileName = other.fileName ↔ archive.pieces = other.pieces) ∧
    (archive = other ↔ archive.fileName = other.fileName ∧
      (TargetTriple.componentsOf archive.name).length =
        (TargetTriple.componentsOf other.name).length ∧
      (TargetTriple.componentsOf archive.target.text).length =
        (TargetTriple.componentsOf other.target.text).length) := by
  refine ⟨fileName_eq_iff archive other, fun same => by simp [same], ?_⟩
  rintro ⟨same, names, targets⟩
  rw [fileName_eq_iff, pieces, pieces] at same
  -- Equally many pieces at the end and at the beginning leave equally many between them.
  obtain ⟨front, target⟩ := List.append_inj' same targets
  obtain ⟨name, version⟩ := List.append_inj front names
  obtain ⟨name', ⟨version', label⟩, ⟨target', triple⟩⟩ := archive
  obtain ⟨name'', ⟨version'', label'⟩, ⟨target'', triple'⟩⟩ := other
  obtain rfl := componentsOf_injective name
  obtain rfl := componentsOf_injective version
  obtain rfl := componentsOf_injective target
  rfl

/-- A revision whose tag ends in a processor may share the name of its archive with another one. -/
theorem not_fileName_injective :
    ¬ ∀ (name name' label label' triple triple' : String) (version version' : VersionLabel)
        (target target' : TargetTriple),
      validateName name = .ok () → validateName name' = .ok () →
      VersionLabel.ofText label = .ok version → VersionLabel.ofText label' = .ok version' →
      TargetTriple.ofText triple = .ok target → TargetTriple.ofText triple' = .ok target' →
      fileName ⟨name, version, target⟩ = fileName ⟨name', version', target'⟩ →
      name = name' ∧ version = version' ∧ target = target' := by
  intro injective
  obtain ⟨-, same, -⟩ := injective "kak-lsp" "kak-lsp" "1.0" "1.0-x86_64"
    "x86_64-unknown-linux-musl" "unknown-linux-musl" ⟨"1.0", by decide⟩ ⟨"1.0-x86_64", by decide⟩
    ⟨"x86_64-unknown-linux-musl", by decide⟩ ⟨"unknown-linux-musl", by decide⟩
    (by decide) (by decide) (by decide) (by decide) (by decide) (by decide) (by decide)
  exact absurd same (by decide)

end ArchiveName

/-! ## The paths of a plan -/

/-- The binary lies three components below the folder that the tool builds in. -/
theorem components_binaryPath (buildDir : Path) (target : TargetTriple) {name : String}
    (plain : Path.IsName name) :
    (binaryPath buildDir target name).components = buildDir.components ++
      [.name target.text, .name "release", .name (name ++ target.executableSuffix)] := by
  have release : Path.IsName "release" := .of_mem (c := 'r') (by decide) (by decide) (by decide)
  rw [binaryPath, Path.components_join_name _ (target.isName_executable plain),
    Path.components_join_name _ release, Path.components_join_name _ target.isName]
  simp

/-- The path of a binary tells the target and the name. -/
theorem eq_of_components_binaryPath {buildDir : Path} {target target' : TargetTriple}
    {name name' : String} (plain : Path.IsName name) (plain' : Path.IsName name')
    (same : (binaryPath buildDir target name).components =
      (binaryPath buildDir target' name').components) : target = target' ∧ name = name' := by
  rw [components_binaryPath buildDir target plain, components_binaryPath buildDir target' plain',
    List.append_cancel_left_eq, List.cons.injEq, Component.name.injEq] at same
  obtain ⟨text, same⟩ := same
  obtain ⟨triple, wellFormed⟩ := target
  obtain ⟨triple', wellFormed'⟩ := target'
  obtain rfl : triple = triple' := text
  -- With the target the suffix is the same, so what stands before it is the same too.
  rw [List.cons.injEq, List.cons.injEq] at same
  have chars := congrArg String.toList (Component.name.inj same.2.1)
  rw [String.toList_append, String.toList_append, List.append_cancel_right_eq] at chars
  exact ⟨rfl, String.toList_inj.mp chars⟩

section

variable {σ : Type} {config : ReleaseConfig} {host : HostSystem} {executor : Executor σ}
  {world after : World σ} {plan : ReleasePlan}

theorem isName_of_validate (valid : config.validate = .ok ()) :
    Path.IsName config.name ∧ Path.IsName config.binaryName := by
  rw [ReleaseConfig.validate] at valid
  cases name : validateName config.name with
  | error error =>
    rw [name] at valid
    cases valid
  | ok _ =>
    cases binaryName : validateName config.binaryName with
    | error error =>
      rw [name, binaryName] at valid
      cases valid
    | ok _ => exact ⟨Path.isName_of_validateName name, Path.isName_of_validateName binaryName⟩

theorem binaryPath_of_makePlan
    (made : (makePlan config host executor).perform world = (.ok plan, after)) :
    plan.binaryPath = binaryPath config.buildDir plan.archive.target config.binaryName := by
  obtain ⟨target, version, -, planned⟩ := exists_planFor_of_makePlan made
  obtain ⟨archive, -, binary, -⟩ := planFor_eq_ok planned
  rw [binary, archive]

/-- With a valid configuration the archive of a plan is one entry of the output folder, and the
binary is three steps below the folder that the tool builds in: the target, `release`, and the name
with the suffix of the target. So below the same folder two plans share a binary only if they are
for the same target and the same name. -/
theorem makePlan_confined (valid : config.validate = .ok ())
    (made : (makePlan config host executor).perform world = (.ok plan, after)) :
    Path.IsName plan.archive.fileName ∧
    plan.archivePath.fileName = some plan.archive.fileName ∧
    (∃ folder, plan.archivePath.parent = some folder ∧
      folder.components = config.outputDir.components) ∧
    plan.binaryPath.components = config.buildDir.components ++
      [.name plan.archive.target.text, .name "release",
        .name (config.binaryName ++ plan.archive.target.executableSuffix)] ∧
    ∀ {τ : Type} (config' : ReleaseConfig) (host' : HostSystem) (executor' : Executor τ)
      (world' after' : World τ) (plan' : ReleasePlan),
      config'.validate = .ok () →
      (makePlan config' host' executor').perform world' = (.ok plan', after') →
      config'.buildDir = config.buildDir →
      plan'.binaryPath.components = plan.binaryPath.components →
      plan'.archive.target = plan.archive.target ∧ config'.binaryName = config.binaryName := by
  obtain ⟨plainName, plainBinary⟩ := isName_of_validate valid
  obtain ⟨target, version, -, planned⟩ := exists_planFor_of_makePlan made
  obtain ⟨archive, archivePath, -, -⟩ := planFor_eq_ok planned
  have plain : Path.IsName plan.archive.fileName := by
    rw [archive]
    exact ArchiveName.isName_fileName plainName.noSeparator
  have binary := binaryPath_of_makePlan made
  refine ⟨plain, ?_, ?_, ?_, ?_⟩
  · rw [archivePath, Path.fileName_join _ plain]
  · rw [archivePath]
    exact Path.exists_parent_join _ plain
  · rw [binary, components_binaryPath _ _ plainBinary]
  · intro τ config' host' executor' world' after' plan' valid' made' folder same
    rw [binaryPath_of_makePlan made', binary, folder] at same
    exact eq_of_components_binaryPath (isName_of_validate valid').2 plainBinary same

/-- A release for another system than that of the host, past a tag of the repository. -/
def foreignRelease : ReleaseConfig :=
  { ReleaseConfig.forProject ⟨"/p"⟩ with
    target := some "x86_64-pc-windows-gnu"
    outputDir := ⟨"dist/"⟩ }

/-- A repository that is described once. -/
def describedOnce : World Script where
  files := ⟨.folder [], []⟩
  outside := .ofList [⟨describeCommand, .ok ⟨.exited 0, Utf8.encode "v1.0-3-gabc1234\n", []⟩⟩]

/-- What is planned for it there. -/
def foreignPlan : ReleasePlan where
  archive := ⟨"kak-lsp", ⟨"v1.0-3-gabc1234", by decide⟩, ⟨"x86_64-pc-windows-gnu", by decide⟩⟩
  archivePath := ⟨"dist/kak-lsp-v1.0-3-gabc1234-x86_64-pc-windows-gnu.tar.gz"⟩
  binaryPath := ⟨"/p/target/x86_64-pc-windows-gnu/release/kak-lsp.exe"⟩
  artifacts := ⟨[
    ⟨.binary, ⟨"/p/target/x86_64-pc-windows-gnu/release/kak-lsp.exe"⟩⟩,
    ⟨.config, ⟨"/p/kak-lsp.toml"⟩⟩,
    ⟨.readme, ⟨"/p/README.asciidoc"⟩⟩,
    ⟨.license, ⟨"/p/COPYING"⟩⟩,
    ⟨.license, ⟨"/p/MIT"⟩⟩,
    ⟨.license, ⟨"/p/UNLICENSE"⟩⟩]⟩
  tool := "cross"
  skipTests := false

theorem makePlan_confined_foreign :
    let planning := (makePlan foreignRelease ⟨"Linux"⟩ .scripted).perform describedOnce
    foreignRelease.validate = .ok () ∧ planning = (.ok foreignPlan, planning.2) ∧
      Path.IsName foreignPlan.archive.fileName ∧
      foreignPlan.binaryPath.components = [.root, .name "p", .name "target",
        .name "x86_64-pc-windows-gnu", .name "release", .name "kak-lsp.exe"] := by
  intro planning
  have valid : foreignRelease.validate = .ok () := by decide
  have made : planning = (.ok foreignPlan, planning.2) := Prod.ext (by decide +kernel) rfl
  obtain ⟨plain, -, -, binary, -⟩ := makePlan_confined valid made
  refine ⟨valid, made, plain, binary.trans ?_⟩
  decide

end

end ReleasePacker
