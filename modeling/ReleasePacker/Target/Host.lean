import ReleasePacker.Error

/-!
# Hosts and their default targets

Without a triple the target follows from the operating system that the packager runs on. Systems
without a default are refused.
-/

namespace ReleasePacker

/-- The name of an operating system. -/
structure HostSystem where
  name : String
  deriving DecidableEq, Repr

namespace HostSystem

/-- The names of the platforms that have another name as a system. -/
def platformNames : List (String × String) :=
  [("linux", "Linux"), ("macos", "Darwin"), ("freebsd", "FreeBSD"), ("netbsd", "NetBSD"),
   ("openbsd", "OpenBSD"), ("windows", "Windows_NT")]

/-- The system of a platform; one that is not known keeps its name. -/
def ofPlatform (platform : String) : HostSystem :=
  ⟨(platformNames.lookup platform).getD platform⟩

/-- The default targets by system. -/
def defaultTargets : List (String × String) :=
  [("Linux", "x86_64-unknown-linux-musl"), ("Darwin", "x86_64-apple-darwin")]

/-- The default target of a system. -/
def defaultTarget (host : HostSystem) : Option String :=
  defaultTargets.lookup host.name

/-- The systems that have a default target. -/
def supported : List String := defaultTargets.map Prod.fst

end HostSystem

/-- The triple that a text is. -/
def parseTarget (text : String) : Except ReleaseError TargetTriple :=
  match TargetTriple.ofText text with
  | .ok triple => .ok triple
  | .error fault => .error (.invalidTarget text fault.message)

/-- The triple that a part of a longer text is. -/
def parseTargetSlice (part : String.Slice) : Except ReleaseError TargetTriple :=
  parseTarget part.copy

/-- The target of a release: the one asked for, or else the default of the host. -/
def resolveTarget (explicit : Option String) (host : HostSystem) :
    Except ReleaseError TargetTriple :=
  match explicit with
  | some text => parseTarget text
  | none =>
    match host.defaultTarget with
    | some text => parseTarget text
    | none => .error (.unsupportedPlatform host.name)

end ReleasePacker
