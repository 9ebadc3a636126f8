import ReleasePacker.IoError
import ReleasePacker.Target.Triple

/-!
# Failures of a release

Every stage of a release has failures of its own, so a failure tells which stage it comes from
and which status the process ends with.
-/

namespace ReleasePacker

/-- The stages of a release. -/
inductive Stage where
  | configuration
  | target
  | version
  | bootstrap
  | build
  | test
  | staging
  | packaging
  | report
  deriving DecidableEq, Repr

/-- The name of a stage in messages. -/
def Stage.name : Stage → String
  | configuration => "configuration"
  | target => "target resolution"
  | version => "version resolution"
  | bootstrap => "tool bootstrap"
  | build => "build"
  | test => "test"
  | staging => "staging"
  | packaging => "packaging"
  | report => "report"

/-- A failure of a release. -/
inductive ReleaseError where
  /-- There is no default target for the operating system. -/
  | unsupportedPlatform (os : String)
  /-- A text is no target triple. -/
  | invalidTarget (value reason : String)
  /-- There is no version label. -/
  | versionResolution (reason : String)
  /-- The tool can be neither found nor installed. -/
  | toolUnavailable (tool reason : String)
  /-- Building failed, with an exit code if the program ended by itself. -/
  | buildFailed (target : TargetTriple) (code : Option Int) (reason : String)
  /-- Testing failed, with an exit code if the program ended by itself. -/
  | testFailed (target : TargetTriple) (code : Option Int) (reason : String)
  /-- A file of the release is not there. -/
  | missingArtifact (path : Path)
  /-- The archive cannot be written. -/
  | archiveWrite (path : Path) (source : IoError)
  /-- The configuration contradicts itself or the rules. -/
  | invalidConfig (reason : String)
  /-- A program ran for too long. -/
  | timeout (program : String) (seconds : Nat)
  /-- The report cannot be written. -/
  | reportWrite (source : IoError)
  /-- An operation on files or processes failed. -/
  | io (source : IoError)
  /-- A scripted run did not go by the script. -/
  | scriptMismatch (message : String)
  deriving DecidableEq

namespace ReleaseError

/-- How a program ended, in messages. -/
def exitText : Option Int → String
  | some code => "exit code " ++ toString code
  | none => "terminated by signal"

/-- The text shown for a failure. -/
def message : ReleaseError → String
  | unsupportedPlatform os => "unsupported platform " ++ os ++ "; pass an explicit target triple"
  | invalidTarget value reason => "invalid target triple \"" ++ value ++ "\": " ++ reason
  | versionResolution reason => "version resolution failed: " ++ reason
  | toolUnavailable tool reason => tool ++ " is unavailable: " ++ reason
  | buildFailed target code reason =>
    "build failed for " ++ target.text ++ " (" ++ exitText code ++ "): " ++ reason
  | testFailed target code reason =>
    "tests failed for " ++ target.text ++ " (" ++ exitText code ++ "): " ++ reason
  | missingArtifact path => "missing artifact " ++ path.text
  | archiveWrite path _ => "failed to write archive " ++ path.text
  | invalidConfig reason => "invalid configuration: " ++ reason
  | timeout program seconds =>
    program ++ " timed out after " ++ toString seconds ++ " seconds"
  | reportWrite source => "failed to write the release report: " ++ source.message
  | io source => "I/O error: " ++ source.message
  | scriptMismatch message => "stub mismatch: " ++ message

/-- The stage that a failure comes from. -/
def stage : ReleaseError → Stage
  | unsupportedPlatform _ | invalidTarget _ _ => .target
  | versionResolution _ => .version
  | toolUnavailable _ _ => .bootstrap
  | buildFailed _ _ _ | timeout _ _ => .build
  | testFailed _ _ _ => .test
  | missingArtifact _ | io _ => .staging
  | archiveWrite _ _ => .packaging
  | reportWrite _ => .report
  | invalidConfig _ | scriptMismatch _ => .configuration

/-- The exit status for a failure: the code of the program that failed to build or to test,
unless it is zero, and otherwise one. -/
def exitCode : ReleaseError → Int
  | buildFailed _ (some code) _ | testFailed _ (some code) _ => if code = 0 then 1 else code
  | _ => 1

/-- The last line on the error stream of a run that failed. -/
def report (error : ReleaseError) : String :=
  "error during " ++ error.stage.name ++ ": " ++ error.message

end ReleaseError
end ReleasePacker
