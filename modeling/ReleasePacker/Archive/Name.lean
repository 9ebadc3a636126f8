import ReleasePacker.Target.Triple
import ReleasePacker.Version

/-!
# Archive names

An archive is named for the name, the version and the target of its release.
-/

namespace ReleasePacker

/-- What an archive is named for. -/
structure ArchiveName where
  name : String
  version : VersionLabel
  target : TargetTriple
  deriving DecidableEq

/-- What the names of archives end in. -/
def archiveExtension : String := ".tar.gz"

/-- The name of the archive. -/
def ArchiveName.fileName (archive : ArchiveName) : String :=
  archive.name ++ "-" ++ archive.version.text ++ "-" ++ archive.target.text ++ archiveExtension

end ReleasePacker
