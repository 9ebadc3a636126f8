import ReleasePacker.Proofs.Artifact
import ReleasePacker.Proofs.FileSystem.Copies

/-!
# Files of a manifest

The paths of a manifest are written from the project, and a file goes by the name that its path ends
in once it starts at the project. This is the name that was written, unless the path goes nowhere
from the project: then it is the name of the project itself. A file like that is accepted among the
others, but what its path leads to is never a file.
-/

namespace ReleasePacker

/-- The files that a manifest names, in order and with their paths as they are written. -/
def Manifest.files (manifest : Manifest) : List Artifact :=
  ⟨.config, manifest.configFile⟩ :: ⟨.readme, manifest.readme⟩ ::
    manifest.licenses.map fun license => ⟨.license, license⟩

namespace Artifact

variable {projectRoot : Path} {file : Artifact}

/-- The file with a path that starts at a project. -/
def below (projectRoot : Path) (file : Artifact) : Artifact :=
  { file with source := projectRoot / file.source }

/-- The name that a file of a project goes by is that of its path as it is written, or, where this
has none and goes nowhere, that of the project. In the second case the file is never there. -/
inductive Named (projectRoot : Path) (file : Artifact) : Prop
  | own (named : file.source.fileName ≠ none)
    (kept : (file.below projectRoot).source.fileName = file.source.fileName)
  | lent (nameless : file.source.fileName = none) (rests : file.source.Rests)
    (named : projectRoot.fileName ≠ none)
    (taken : (file.below projectRoot).source.fileName = projectRoot.fileName)
    (absent : ∀ files : FileSystem, files.isFile (file.below projectRoot).source = false)

theorem named_iff : Named projectRoot file ↔ (file.below projectRoot).source.fileName ≠ none := by
  constructor
  · rintro (⟨named, kept⟩ | ⟨-, -, named, taken, -⟩)
    · rwa [kept]
    · rwa [taken]
  · intro named
    by_cases rests : file.source.Rests
    · have taken := Path.fileName_join_of_rests projectRoot rests
      exact .lent rests.fileName_eq_none rests (taken ▸ named) taken
        fun files => files.isFile_join_of_rests projectRoot rests
    · have kept := Path.fileName_join_of_moves projectRoot rests
      exact .own (kept ▸ named) kept

end Artifact

namespace ArtifactSet

variable {manifest : Manifest} {projectRoot binary : Path}

theorem ofManifest_eq : ofManifest manifest projectRoot binary =
    ofList (⟨.binary, binary⟩ :: manifest.files.map (Artifact.below projectRoot)) := by
  simp [ofManifest, Manifest.files, Artifact.below, Function.comp_def]

/-- A list with a file without a name is refused. -/
theorem exists_ofList_eq_error {entries : List Artifact} {file : Artifact} (inside : file ∈ entries)
    (nameless : file.source.fileName = none) :
    ∃ reason, ofList entries = .error (.invalidConfig reason) := by
  cases made : ofList entries with
  | ok set => exact absurd nameless ((ofList_eq_ok.mp made).2.1 file inside)
  | error error =>
    obtain ⟨_, _, _, reason, -, -, -, rfl⟩ := ofList_eq_error.mp made
    exact ⟨reason, rfl⟩

/-- A set that a manifest makes up holds the binary, the configuration, the readme and the licenses
in this order. Each file of the manifest goes by the name that is written there, or else by that of
the project, from which it goes nowhere. A manifest with a file that has neither is refused. -/
theorem ofManifest_named (manifest : Manifest) (projectRoot binary : Path) :
    (∀ set, ofManifest manifest projectRoot binary = .ok set →
      set.entries = ⟨.binary, binary⟩ :: manifest.files.map (Artifact.below projectRoot) ∧
      ∀ file ∈ manifest.files, file.Named projectRoot) ∧
    ∀ file ∈ manifest.files, file.source.fileName = none →
      ¬(file.source.Rests ∧ projectRoot.fileName ≠ none) →
      ∃ reason, ofManifest manifest projectRoot binary = .error (.invalidConfig reason) := by
  rw [ofManifest_eq]
  have entry {file : Artifact} (member : file ∈ manifest.files) : file.below projectRoot ∈
      ⟨.binary, binary⟩ :: manifest.files.map (Artifact.below projectRoot) :=
    List.mem_cons_of_mem _ (List.mem_map_of_mem member)
  constructor
  · intro set made
    obtain ⟨same, named, -⟩ := ofList_eq_ok.mp made
    exact ⟨same, fun file member => Artifact.named_iff.mpr (named _ (entry member))⟩
  · intro file member nameless neither
    -- A joined path with a name would have to have it from one of the two.
    refine exists_ofList_eq_error (entry member) ?_
    by_contra named
    rcases Artifact.named_iff.mpr named with ⟨named, -⟩ | ⟨-, rests, named, -, -⟩
    · exact named nameless
    · exact neither ⟨rests, named⟩

/-- The configuration of this manifest goes by the name of the project. -/
def restingManifest : Manifest := ⟨⟨"./"⟩, ⟨"docs/README/"⟩, [⟨"/usr/share/MIT"⟩]⟩

theorem ofManifest_named_resting :
    (∃ set, ofManifest restingManifest ⟨"/src/p"⟩ ⟨"/t/kak-lsp"⟩ = .ok set ∧
      set.fileNames = ["kak-lsp", "p", "README", "MIT"] ∧
      ∀ file ∈ restingManifest.files, file.Named ⟨"/src/p"⟩) ∧
    ∃ reason, ofManifest restingManifest ⟨"/src/p/.."⟩ ⟨"/t/kak-lsp"⟩ =
      .error (.invalidConfig reason) :=
  ⟨⟨⟨_⟩, rfl, by decide, ((ofManifest_named restingManifest ⟨"/src/p"⟩ ⟨"/t/kak-lsp"⟩).1 _ rfl).2⟩,
    (ofManifest_named restingManifest ⟨"/src/p/.."⟩ ⟨"/t/kak-lsp"⟩).2 ⟨.config, ⟨"./"⟩⟩ (by decide)
      (by decide) (by decide)⟩

/-- It is not so that every file goes by the name that the manifest has for it, nor that a manifest
with a path without a name is refused: an empty path is accepted under the name of the project. -/
theorem not_ofManifest_nameless_refused :
    ¬ ∀ (manifest : Manifest) (projectRoot binary : Path),
      (∀ set, ofManifest manifest projectRoot binary = .ok set →
        set.entries = ⟨.binary, binary⟩ :: manifest.files.map (Artifact.below projectRoot) ∧
        ∀ file ∈ manifest.files,
          (file.below projectRoot).source.fileName = file.source.fileName) ∧
      ((∃ file ∈ manifest.files, file.source.fileName = none) →
        ∃ reason, ofManifest manifest projectRoot binary = .error (.invalidConfig reason)) := by
  intro claimed
  obtain ⟨reason, refused⟩ :=
    (claimed { Manifest.standard with configFile := ⟨""⟩ } ⟨"/p"⟩ ⟨"/t/kak-lsp"⟩).2
      ⟨⟨.config, ⟨""⟩⟩, by decide, by decide⟩
  have accepted : (ofManifest { Manifest.standard with configFile := ⟨""⟩ } ⟨"/p"⟩
      ⟨"/t/kak-lsp"⟩).toOption ≠ none := by decide
  rw [refused] at accepted
  exact accepted rfl

end ArtifactSet
end ReleasePacker
