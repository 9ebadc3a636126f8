import ReleasePacker.Archive.Pack
import ReleasePacker.Plan
import ReleasePacker.Text.Quoted

/-!
# Release reports

What a successful run says about the archive, for people and for programs.
-/

namespace ReleasePacker

/-- What a successful run reports. -/
structure ReleaseReport where
  name : String
  version : VersionLabel
  target : TargetTriple
  archive : Path
  members : List String
  sha256 : String
  deriving DecidableEq

/-- The line that says that an archive has been written. -/
def successMessage (path : String) (members : Nat) (sha256 : String) : String :=
  "Wrote " ++ path ++ " (" ++ toString members ++ (if members = 1 then " file" else " files") ++
    ", sha256 " ++ sha256 ++ ")"

namespace ReleaseReport

/-- The report about an archive that was planned. -/
def ofArchive (plan : ReleasePlan) (archive : ReleaseArchive) : ReleaseReport where
  name := plan.archive.name
  version := plan.archive.version
  target := plan.archive.target
  archive := archive.path
  members := archive.members
  sha256 := archive.sha256

/-- The last line of progress. -/
def summary (report : ReleaseReport) : String :=
  successMessage report.archive.text report.members.length report.sha256

/-- A list of texts in JSON, each on a line of its own. -/
def jsonList (items : List String) : String :=
  if items.isEmpty then "[]"
  else
    "[\n" ++ Text.joinWith ",\n" (items.map fun item => "    " ++ Text.jsonQuoted item) ++ "\n  ]"

/-- The report as JSON. -/
def json (report : ReleaseReport) : String :=
  let field (name value : String) : String := "  " ++ Text.jsonQuoted name ++ ": " ++ value
  "\x7b\n" ++
    Text.joinWith ",\n"
      [field "name" (Text.jsonQuoted report.name),
       field "version" (Text.jsonQuoted report.version.text),
       field "target" (Text.jsonQuoted report.target.text),
       field "archive" (Text.jsonQuoted report.archive.text),
       field "members" (jsonList report.members),
       field "sha256" (Text.jsonQuoted report.sha256)] ++
    "\n\x7d"

end ReleaseReport
end ReleasePacker
