import ReleasePacker.World
import ReleasePacker.Version

/-!
# Versions from the repository

Unless a tag is given, the version label is what the version control system says about the
current revision: the nearest tag, and how far the revision is past it.
-/

namespace ReleasePacker

/-- The command that describes the current revision. -/
def describeCommand : Command := ⟨"git", ["describe", "--tags"]⟩

/-- The label that a text is. -/
def parseVersion (text : String) : Except ReleaseError VersionLabel :=
  match VersionLabel.ofText text with
  | .ok label => .ok label
  | .error fault => .error (.versionResolution fault.message)

/-- The label in the output of the describing command: its first line. -/
def parseDescription (stdout : Bytes) : Except ReleaseError VersionLabel :=
  match VersionLabel.ofText (String.ofList (Text.firstLine (Utf8.decodeLossyChars stdout))) with
  | .ok label => .ok label
  | .error fault =>
    .error (.versionResolution
      ("git describe --tags printed no usable version: " ++ fault.message))

/-- The label that an answer of the describing command gives. -/
def describedVersion (answer : Except ReleaseError Output) : Except ReleaseError VersionLabel :=
  match answer with
  | .error error => .error (.versionResolution ("failed to run git: " ++ error.message))
  | .ok output =>
    if output.status.isSuccess then parseDescription output.stdout
    else
      let text := output.stderrText
      .error (.versionResolution
        (if text.toList.isEmpty then "git describe --tags exited with " ++ output.status.message
          else text))

/-- Asks for the label of the current revision. -/
def describeVersion {σ : Type} (executor : Executor σ) : Task σ VersionLabel := do
  liftExcept (describedVersion (← Task.runCommand executor describeCommand))

/-- Where the label of a release comes from. -/
inductive VersionSource where
  /-- From the version control system. -/
  | describe
  /-- From a tag that was given. -/
  | given (label : VersionLabel)
  deriving DecidableEq

/-- The label of a release. -/
def VersionSource.resolve {σ : Type} (executor : Executor σ) : VersionSource → Task σ VersionLabel
  | describe => describeVersion executor
  | given label => return label

end ReleasePacker
