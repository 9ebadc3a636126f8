import ReleasePacker.Path

/-!
# Manifests

The manifest of a release names the files that go into the archive beside the binary.
-/

namespace ReleasePacker

/-- The files that go into the archive beside the binary. -/
structure Manifest where
  configFile : Path
  readme : Path
  licenses : List Path
  deriving DecidableEq, Repr

/-- The manifest of a project that says nothing. -/
def Manifest.standard : Manifest where
  configFile := ⟨"kak-lsp.toml"⟩
  readme := ⟨"README.asciidoc"⟩
  licenses := [⟨"COPYING"⟩, ⟨"MIT"⟩, ⟨"UNLICENSE"⟩]

end ReleasePacker
