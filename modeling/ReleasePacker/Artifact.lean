import ReleasePacker.Config.Manifest
import ReleasePacker.Error

/-!
# Artifacts

The files that go into the archive, each under the name that its path ends in, so no two may end
in the same name.
-/

namespace ReleasePacker

/-- What a file is in the release. -/
inductive ArtifactKind where
  | binary
  | config
  | readme
  | license
  deriving DecidableEq, Repr

/-- The name of a kind in messages. -/
def ArtifactKind.name : ArtifactKind → String
  | binary => "binary"
  | config => "config"
  | readme => "readme"
  | license => "license"

/-- A file of the release. -/
structure Artifact where
  kind : ArtifactKind
  /-- Where the file is. -/
  source : Path
  deriving DecidableEq, Repr

/-- The name that the file gets in the archive, empty if its path ends in none. -/
def Artifact.fileName (artifact : Artifact) : String :=
  artifact.source.fileName.getD ""

/-- Why a list of files is no set. -/
inductive ArtifactFault where
  | nameless (artifact : Artifact)
  | repeated (name : String)
  deriving DecidableEq, Repr

/-- The text shown for a fault. -/
def ArtifactFault.message : ArtifactFault → String
  | nameless artifact =>
    artifact.kind.name ++ " path " ++ artifact.source.text ++ " has no file name"
  | repeated name => "more than one artifact is named " ++ name

/-- Files with names of their own. -/
structure ArtifactSet where
  entries : List Artifact
  deriving DecidableEq, Repr

namespace ArtifactSet

/-- The names of the files, in order. -/
def fileNames (set : ArtifactSet) : List String := set.entries.map Artifact.fileName

/-- The first fault in a list of files, given the names of those before it. -/
def firstFault : (seen : List String) → List Artifact → Option ArtifactFault
  | _, [] => none
  | seen, artifact :: rest =>
    let name := artifact.fileName
    if name = "" then some (.nameless artifact)
    else if name ∈ seen then some (.repeated name)
    else firstFault (name :: seen) rest

/-- The set of a list of files. -/
def ofList (entries : List Artifact) : Except ReleaseError ArtifactSet :=
  match firstFault [] entries with
  | none => .ok ⟨entries⟩
  | some fault => .error (.invalidConfig fault.message)

/-- The files that a manifest and a binary make up: the binary first, then those of the manifest
in its order, below the project. -/
def ofManifest (manifest : Manifest) (projectRoot binary : Path) :
    Except ReleaseError ArtifactSet :=
  ofList (
    ⟨.binary, binary⟩ ::
    ⟨.config, projectRoot / manifest.configFile⟩ ::
    ⟨.readme, projectRoot / manifest.readme⟩ ::
    manifest.licenses.map fun license => ⟨.license, projectRoot / license⟩)

end ArtifactSet
end ReleasePacker
