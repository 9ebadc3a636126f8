import Mathlib.Data.List.Forall2
import ReleasePacker.Proofs.Config
import ReleasePacker.Proofs.FileSystem.Components
import ReleasePacker.Proofs.Plan

/-!
# Where the paths of a run start

The programs of a run work in the directory of the project, and the run itself stays where it was
started. A relative path would mean another place to each of them, so every path that a run uses
starts at the root. The ones that were given as relative ones lead below a base that is fixed
before, and it makes no difference to give them from the root at once.
-/

namespace ReleasePacker

/-! ## Seen from a base -/

namespace Path

/-- Where a path leads from a base: to itself if it is absolute, and otherwise the steps of the base
come first and the steps of the path follow. -/
structure IsSeenFrom (base path result : Path) : Prop where
  isAbsolute : result.isAbsolute = true
  itself : path.isAbsolute = true → result = path
  below : path.isAbsolute = false →
    result.components = base.components ++ path.components.filter (· ≠ .current)

/-- A path is as it was given, or it was joined to the base before. -/
def Anchors (base : Path) (given written : Option Path) : Prop :=
  written = given ∨ written = given.map (base / ·)

/-- What the pieces of a path stand for are its components, but for the current directory in
front. -/
theorem innerComponents_eq_filter {path : Path} (relative : path.isAbsolute = false) :
    path.innerComponents = path.components.filter (· ≠ .current) := by
  have steps : path.innerComponents.filter (· ≠ .current) = path.innerComponents := by
    refine List.filter_eq_self.mpr fun component member => ?_
    obtain ⟨piece, -, stands⟩ := List.mem_filterMap.mp member
    refine decide_eq_true ?_
    rintro rfl
    rw [componentOf] at stands
    split at stands
    · cases stands
    · split at stands <;> cases stands
  rw [components, relative, if_neg Bool.false_ne_true, ← innerComponents]
  split
  · rw [List.filter_cons_of_neg (by decide), steps]
  · exact steps.symm

theorem components_of_rooted {path : Path} (rooted : path.isAbsolute = true) :
    path.components = .root :: path.innerComponents :=
  if_pos rooted

variable {base : Path} (rooted : base.isAbsolute = true)
include rooted

/-- What is joined to a path from the root is a path from the root. -/
theorem isAbsolute_join_of_rooted (path : Path) : (base / path).isAbsolute = true := by
  change (base.join path).isAbsolute = true
  cases relative : path.isAbsolute with
  | true => rwa [join, if_pos relative]
  | false =>
    rw [isAbsolute, decide_eq_true_eq] at rooted
    rw [join_of_relative base relative, isAbsolute, String.toList_append, String.toList_append,
      List.append_assoc, List.head?_append, rooted]
    rfl

/-- A joined path is what the path leads to from the base. -/
theorem join_isSeenFrom (path : Path) : IsSeenFrom base path (base / path) := by
  refine ⟨isAbsolute_join_of_rooted rooted path, fun absolute => ?_, fun relative => ?_⟩
  · exact if_pos absolute
  · have joined : (base.join path).isAbsolute = true := isAbsolute_join_of_rooted rooted path
    change (base.join path).components = _
    rw [components_of_rooted joined, components_of_rooted rooted,
      base.innerComponents_join relative, innerComponents_eq_filter relative, List.cons_append]

/-- Joining again changes nothing. -/
theorem join_join (path : Path) : base / (base / path) = base / path :=
  if_pos (isAbsolute_join_of_rooted rooted path)

theorem isAbsolute_anchored (given : Option Path) : (anchored base given).isAbsolute = true := by
  cases given with
  | none => exact rooted
  | some path => exact isAbsolute_join_of_rooted rooted path

theorem Anchors.map_eq {given written : Option Path} (anchors : Anchors base given written) :
    written.map (base / ·) = given.map (base / ·) := by
  rcases anchors with rfl | rfl
  · rfl
  · cases given with
    | none => rfl
    | some path => exact congrArg some (join_join rooted path)

theorem Anchors.anchored_eq {given written : Option Path} (anchors : Anchors base given written) :
    anchored base written = anchored base given := by
  have split (other : Option Path) : anchored base other = (other.map (base / ·)).getD base := by
    cases other <;> rfl
  rw [split, split, anchors.map_eq rooted]

end Path

/-! ## Configurations and plans -/

/-- The paths of a manifest, in the order in which they are packed. -/
def Manifest.paths (manifest : Manifest) : List Path :=
  manifest.configFile :: manifest.readme :: manifest.licenses

/-- The paths of a configuration start at the root. Those that were given are seen from where the
run was started, the folder to build in from the project. -/
structure ReleaseConfig.IsAnchored (config : ReleaseConfig) (options : Options)
    (context : ProcessContext) : Prop where
  absolute : ∀ path ∈ [config.projectRoot, config.outputDir, config.buildDir],
    path.isAbsolute = true
  projectRoot : ∀ path, options.projectRoot = some path →
    Path.IsSeenFrom context.workingDirectory path config.projectRoot
  outputDir : ∀ path, options.outputDir = some path →
    Path.IsSeenFrom context.workingDirectory path config.outputDir
  buildDir : Path.IsSeenFrom config.projectRoot (context.cargoTargetDir.getD ⟨"target"⟩)
    config.buildDir
  standardRoot : options.projectRoot = none → config.projectRoot = context.workingDirectory
  standardOutput : options.outputDir = none → config.outputDir = context.workingDirectory
  installFolder : ∃ base folder, config.tool.installFolder = some folder ∧
    Path.IsSeenFrom base ⟨"bin"⟩ folder ∧
    (∀ home, context.cargoHome = some home →
      Path.IsSeenFrom context.workingDirectory home base) ∧
    (context.cargoHome = none → Path.IsSeenFrom context.home ⟨".cargo"⟩ base)

/-- The paths of a plan start at the root. The first file is the binary, and the others are those of
the manifest, seen from the project. -/
structure ReleasePlan.IsAnchored (plan : ReleasePlan) (config : ReleaseConfig) : Prop where
  archivePath : plan.archivePath.isAbsolute = true
  binaryPath : plan.binaryPath.isAbsolute = true
  absolute : ∀ artifact ∈ plan.artifacts.entries, artifact.source.isAbsolute = true
  sources : ∃ seen, plan.artifacts.entries.map Artifact.source = plan.binaryPath :: seen ∧
    List.Forall₂ (Path.IsSeenFrom config.projectRoot) config.manifest.paths seen

/-- The sources of a set from a manifest are the binary and what the manifest names. -/
theorem ArtifactSet.sources_of_ofManifest {manifest : Manifest} {projectRoot binary : Path}
    {set : ArtifactSet} (made : ofManifest manifest projectRoot binary = .ok set) :
    set.entries.map Artifact.source = binary :: manifest.paths.map (projectRoot / ·) := by
  rw [ofManifest, ofList] at made
  split at made
  · cases made
    simp [Manifest.paths, Function.comp_def]
  · cases made

/-- A plan starts at the root if its configuration does. -/
theorem isAnchored_of_planFor {config : ReleaseConfig} {target : TargetTriple}
    {version : VersionLabel} {plan : ReleasePlan} (made : planFor config target version = .ok plan)
    (rooted : ∀ path ∈ [config.projectRoot, config.outputDir, config.buildDir],
      path.isAbsolute = true) : plan.IsAnchored config := by
  simp only [List.forall_mem_cons, List.not_mem_nil, false_imp_iff, implies_true,
    and_true] at rooted
  obtain ⟨root, output, build⟩ := rooted
  obtain ⟨-, archivePath, binary, -⟩ := planFor_eq_ok made
  have binaryRooted : plan.binaryPath.isAbsolute = true := by
    rw [binary]
    exact Path.isAbsolute_join_of_rooted (Path.isAbsolute_join_of_rooted
      (Path.isAbsolute_join_of_rooted build _) _) _
  have sources : plan.artifacts.entries.map Artifact.source =
      plan.binaryPath :: config.manifest.paths.map (config.projectRoot / ·) := by
    obtain ⟨set, artifacts, done⟩ := exists_of_bind_eq_ok made
    cases done
    exact ArtifactSet.sources_of_ofManifest artifacts
  refine ⟨?_, binaryRooted, fun artifact inside => ?_, ?_⟩
  · rw [archivePath]
    exact Path.isAbsolute_join_of_rooted output _
  · have source := List.mem_map_of_mem (f := Artifact.source) inside
    rw [sources, List.mem_cons, List.mem_map] at source
    rcases source with same | ⟨path, -, same⟩
    · rwa [same]
    · rw [← same]
      exact Path.isAbsolute_join_of_rooted root path
  · refine ⟨_, sources, List.forall₂_map_right_iff.mpr ?_⟩
    exact List.forall₂_same.mpr fun path _ => Path.join_isSeenFrom root path

/-! ## From the options to the paths -/

namespace Options

variable {options : Options} {context : ProcessContext} {files : FileSystem}

/-- The places in a configuration that was put together. -/
theorem merge_eq_ok {file : ProjectFile} {config : ReleaseConfig}
    (merged : options.merge context file = .ok config) :
    config.projectRoot = options.projectDirectory context ∧
      config.outputDir = anchored context.workingDirectory options.outputDir ∧
      config.buildDir =
        options.projectDirectory context / context.cargoTargetDir.getD ⟨"target"⟩ ∧
      config.manifest = file.manifest ∧
      config.tool.installFolder = some (ReleasePacker.installFolder
        (context.cargoHome.map (context.workingDirectory / ·)) context.home) := by
  obtain ⟨version, -, done⟩ := exists_of_bind_eq_ok merged
  cases done
  exact ⟨rfl, rfl, rfl, rfl, rfl⟩

/-- A configuration is put together from the release file of its project. -/
theorem exists_merge_of_resolve {config : ReleaseConfig}
    (resolved : options.resolve context files = .ok config) :
    ∃ file, ProjectFile.load files (options.projectDirectory context) = .ok file ∧
      options.merge context file = .ok config := by
  obtain ⟨file, loaded, merging⟩ := exists_of_bind_eq_ok resolved
  obtain ⟨other, merged, checking⟩ := exists_of_bind_eq_ok merging
  obtain ⟨-, -, done⟩ := exists_of_bind_eq_ok checking
  cases done
  exact ⟨file, loaded, merged⟩

section

variable (rooted : context.workingDirectory.isAbsolute = true)
include rooted

theorem isAnchored_of_merge {file : ProjectFile} {config : ReleaseConfig}
    (housed : context.cargoHome = none → context.home.isAbsolute = true)
    (merged : options.merge context file = .ok config) : config.IsAnchored options context := by
  obtain ⟨root, output, build, -, folder⟩ := merge_eq_ok merged
  have rootRooted : (options.projectDirectory context).isAbsolute = true :=
    Path.isAbsolute_anchored rooted _
  constructor
  case absolute =>
    intro path member
    simp only [List.mem_cons, List.not_mem_nil, or_false] at member
    rcases member with rfl | rfl | rfl
    · rwa [root]
    · rw [output]
      exact Path.isAbsolute_anchored rooted _
    · rw [build]
      exact Path.isAbsolute_join_of_rooted rootRooted _
  case projectRoot =>
    intro path given
    rw [root, projectDirectory, given]
    exact Path.join_isSeenFrom rooted path
  case outputDir =>
    intro path given
    rw [output, given]
    exact Path.join_isSeenFrom rooted path
  case buildDir =>
    rw [build, root]
    exact Path.join_isSeenFrom rootRooted _
  case standardRoot =>
    intro standard
    rw [root, projectDirectory, standard, anchored]
  case standardOutput =>
    intro standard
    rw [output, standard, anchored]
  case installFolder =>
    rw [folder]
    cases given : context.cargoHome with
    | some home =>
      have seen := Path.join_isSeenFrom rooted home
      refine ⟨_, _, rfl, Path.join_isSeenFrom seen.isAbsolute ⟨"bin"⟩, fun other same => ?_, nofun⟩
      cases same
      exact seen
    | none =>
      have seen := Path.join_isSeenFrom (housed given) ⟨".cargo"⟩
      exact ⟨_, _, rfl, Path.join_isSeenFrom seen.isAbsolute ⟨"bin"⟩, nofun, fun _ => seen⟩

/-- Options and variables that give their paths from the root already lead to the same answer. -/
theorem resolve_eq_of_anchors {projectRoot outputDir cargoHome cargoTargetDir : Option Path}
    (forRoot : Path.Anchors context.workingDirectory options.projectRoot projectRoot)
    (forOutput : Path.Anchors context.workingDirectory options.outputDir outputDir)
    (forHome : Path.Anchors context.workingDirectory context.cargoHome cargoHome)
    (forBuild : Path.Anchors (options.projectDirectory context) context.cargoTargetDir
      cargoTargetDir) :
    Options.resolve { options with projectRoot, outputDir }
      { context with cargoHome, cargoTargetDir } files = options.resolve context files := by
  have root : Options.projectDirectory { options with projectRoot, outputDir }
      { context with cargoHome, cargoTargetDir } = options.projectDirectory context :=
    forRoot.anchored_eq rooted
  have build : options.projectDirectory context / cargoTargetDir.getD ⟨"target"⟩ =
      options.projectDirectory context / context.cargoTargetDir.getD ⟨"target"⟩ := by
    rcases forBuild with rfl | rfl
    · rfl
    · cases context.cargoTargetDir with
      | none => rfl
      | some path => exact Path.join_join (Path.isAbsolute_anchored rooted _) path
  have merged : Options.merge { options with projectRoot, outputDir }
      { context with cargoHome, cargoTargetDir } = options.merge context := by
    funext file
    simp only [merge, root, build, forOutput.anchored_eq rooted, forHome.map_eq rooted]
    rfl
  simp only [resolve, root, merged]

end

/-- All paths of a run start at the root. The ones that were given are seen from where the run was
started or, for the folder to build in and the files of the manifest, from the project, and to give
them from the root at once leads to the same configuration or the same failure. -/
theorem resolve_anchored (options : Options) (context : ProcessContext) (files : FileSystem)
    (rooted : context.workingDirectory.isAbsolute = true)
    (housed : context.cargoHome = none → context.home.isAbsolute = true) :
    (∀ config, options.resolve context files = .ok config →
      config.IsAnchored options context ∧
      (∃ file, ProjectFile.load files (options.projectDirectory context) = .ok file ∧
        config.manifest = file.manifest) ∧
      ∀ {σ : Type} (host : HostSystem) (executor : Executor σ) (world middle : World σ) plan,
        (makePlan config host executor).perform world = (.ok plan, middle) →
          plan.IsAnchored config) ∧
    (∀ projectRoot outputDir cargoHome cargoTargetDir,
      Path.Anchors context.workingDirectory options.projectRoot projectRoot →
      Path.Anchors context.workingDirectory options.outputDir outputDir →
      Path.Anchors context.workingDirectory context.cargoHome cargoHome →
      Path.Anchors (options.projectDirectory context) context.cargoTargetDir cargoTargetDir →
        Options.resolve { options with projectRoot, outputDir }
            { context with cargoHome, cargoTargetDir } files =
          options.resolve context files) := by
  refine ⟨fun config resolved => ?_, fun _ _ _ _ => resolve_eq_of_anchors rooted⟩
  obtain ⟨file, loaded, merged⟩ := exists_merge_of_resolve resolved
  have places := isAnchored_of_merge rooted housed merged
  refine ⟨places, ⟨file, loaded, (merge_eq_ok merged).2.2.2.1⟩, ?_⟩
  intro σ host executor world middle plan made
  obtain ⟨target, version, -, planned⟩ := exists_planFor_of_makePlan made
  exact isAnchored_of_planFor planned places.absolute

/-- A project and a folder to build in that are given as relative paths are those below where the
run was started. -/
theorem resolve_anchored_relative :
    let options : Options := { projectRoot := some ⟨"p"⟩, outputDir := some ⟨""⟩, tag := "1.0" }
    let context : ProcessContext :=
      { workingDirectory := ⟨"/w"⟩, home := ⟨"/root"⟩, cargoTargetDir := some ⟨"../t"⟩ }
    let bare : FileSystem := { root := .folder [("w", .folder [("p", .folder [])])] }
    ∃ config, options.resolve context bare = .ok config ∧ config.IsAnchored options context ∧
      config.buildDir.components = [.root, .name "w", .name "p", .parent, .name "t"] ∧
      Options.resolve { options with projectRoot := some ⟨"/w/p"⟩ }
        { context with cargoTargetDir := some ⟨"/w/p/../t"⟩ } bare = .ok config := by
  intro options context bare
  have resolves : (options.resolve context bare).toOption.isSome = true := by decide +kernel
  obtain ⟨places, same⟩ :=
    resolve_anchored options context bare (by decide) (fun _ => by decide)
  rcases ending : options.resolve context bare with error | config
  · rw [ending] at resolves
    cases resolves
  obtain ⟨anchored, -, -⟩ := places config ending
  have root := (anchored.projectRoot ⟨"p"⟩ rfl).below (by decide)
  have build := anchored.buildDir.below (by decide)
  refine ⟨config, rfl, anchored, ?_, ?_⟩
  · rw [build, root]
    decide
  · rw [← ending]
    exact same (some ⟨"/w/p"⟩) _ _ (some ⟨"/w/p/../t"⟩) (.inr (by decide)) (.inl rfl) (.inl rfl)
      (.inr (by decide))

end Options
end ReleasePacker
