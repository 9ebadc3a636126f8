import ReleasePacker.Path

/-!
# Tool settings

The tool builds and tests for other targets. Here is which program it is, and what is needed
for installing it.
-/

namespace ReleasePacker

/-- The tool that can be installed. -/
def standardTool : String := "cross"

/-- The version that is installed. -/
def standardToolVersion : String := "v0.2.5"

/-- Which program builds and tests, and what is needed for installing it. -/
structure ToolSettings where
  program : String := standardTool
  version : String := standardToolVersion
  installFolder : Option Path := none
  skipInstall : Bool := false
  deriving DecidableEq, Repr

/-- The published archives by processor architecture and operating system. -/
def publishedAssets : List ((String × String) × String) :=
  [(("x86_64", "linux"), "x86_64-unknown-linux-musl"),
   (("x86_64", "macos"), "x86_64-apple-darwin"),
   (("aarch64", "macos"), "x86_64-apple-darwin"),
   (("x86_64", "windows"), "x86_64-pc-windows-msvc")]

/-- The published archive for a host. -/
def assetFor (architecture operatingSystem : String) : Option String :=
  publishedAssets.lookup (architecture, operatingSystem)

/-- Where the archive of a version is published. -/
def assetUrl (version asset : String) : String :=
  "https://github.com/cross-rs/cross/releases/download/" ++ version ++ "/cross-" ++ asset ++
    ".tar.gz"

/-- Where the tool is installed: below the package manager's folder, or else below the home
directory. -/
def installFolder (cargoHome : Option Path) (home : Path) : Path :=
  match cargoHome with
  | some folder => folder / "bin"
  | none => home / ".cargo" / "bin"

end ReleasePacker
