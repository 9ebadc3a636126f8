import ReleasePacker.Config.Manifest
import ReleasePacker.Error
import ReleasePacker.FileSystem.Operations
import ReleasePacker.Toml.Document

/-!
# The project's release file

A project may set names, paths and the tool in a file of its own. A file that is not there sets
nothing; one that sets an unknown key or a value of the wrong type is refused.
-/

namespace ReleasePacker

/-- What the release file of a project sets. -/
structure ProjectFile where
  name : Option String := none
  binary : Option String := none
  configFile : Option Path := none
  readme : Option Path := none
  licenses : Option (List Path) := none
  tool : Option String := none
  toolVersion : Option String := none
  deriving DecidableEq, Repr

namespace ProjectFile

/-- The name of the release file in a project. -/
def fileName : String := "release.toml"

/-- The keys that can be set. -/
def keys : List String :=
  ["name", "binary", "config_file", "readme", "license_files", "tool", "tool_version"]

/-- Why a text is no release file. -/
inductive Fault where
  /-- The text is no document. -/
  | notADocument
  | unknownKey (key : String)
  | wrongType
  /-- A value is a number too large to be looked at. -/
  | numberTooLarge
  deriving DecidableEq, Repr

/-- The text shown for a fault. -/
def Fault.message : Fault → String
  | notADocument | numberTooLarge => "TOML parse error"
  | wrongType => "TOML parse error: invalid type"
  | unknownKey key =>
    "TOML parse error: unknown field `" ++ key ++ "`, expected one of " ++
      Text.joinWith ", " (keys.map fun known => "`" ++ known ++ "`")

/-- The least power of ten that is too large for a real number. -/
def maxRealPower : Nat := 309

/-- The least number that rounds to infinity. -/
def realLimit : Nat := Nat.pow 2 1024 - Nat.pow 2 970

/-- Whether a decimal number rounds to infinity. -/
def isTooLargeReal (decimal : Toml.Decimal) : Bool :=
  let digits := (Nat.toDigits 10 decimal.digits).length
  if decimal.digits = 0 then false
  else if decimal.exponent + digits ≤ maxRealPower - 1 then false
  else if maxRealPower + 1 < decimal.exponent + digits then true
  else if 0 ≤ decimal.exponent then realLimit ≤ decimal.digits * Nat.pow 10 decimal.exponent.toNat
  else realLimit * Nat.pow 10 (-decimal.exponent).toNat ≤ decimal.digits

/-- The fault of a value that should have another type. -/
def wrongTypeFault : Toml.Value → Fault
  | .integer value =>
    if value < -Int.ofNat (Nat.pow 2 127) ∨ Int.ofNat (Nat.pow 2 128) ≤ value then .numberTooLarge
    else .wrongType
  | .real (some decimal) => if isTooLargeReal decimal then .numberTooLarge else .wrongType
  | _ => .wrongType

/-- A value that must be a text. -/
def textOf : Toml.Value → Except Fault String
  | .text chars => .ok (String.ofList chars)
  | other => .error (wrongTypeFault other)

/-- A value that must be a list of texts. -/
def pathsOf : Toml.Value → Except Fault (List Path)
  | .array items => items.mapM fun item => (textOf item).map Path.mk
  | .tables [] => .ok []
  | other => .error (wrongTypeFault other)

/-- The settings with one more entry of a document. -/
def set (file : ProjectFile) (entry : Toml.Key × Toml.Value) : Except Fault ProjectFile := do
  let key := String.ofList entry.1
  match key with
  | "name" => return { file with name := some (← textOf entry.2) }
  | "binary" => return { file with binary := some (← textOf entry.2) }
  | "config_file" => return { file with configFile := some ⟨← textOf entry.2⟩ }
  | "readme" => return { file with readme := some ⟨← textOf entry.2⟩ }
  | "license_files" => return { file with licenses := some (← pathsOf entry.2) }
  | "tool" => return { file with tool := some (← textOf entry.2) }
  | "tool_version" => return { file with toolVersion := some (← textOf entry.2) }
  | _ => throw (.unknownKey key)

/-- Whether one key stands before another in the order of code points. -/
def keyBefore (a b : Toml.Key) : Bool := !b.lex a fun x y => decide (x.toNat < y.toNat)

/-- The settings in a document. Entries are looked at in the order of their keys. -/
def ofTable (table : Toml.Table) : Except Fault ProjectFile :=
  (table.entries.mergeSort fun a b => keyBefore a.1 b.1).foldlM set {}

/-- The settings in a text. -/
def ofText (text : String) : Except Fault ProjectFile :=
  match Toml.parse? text with
  | none => .error .notADocument
  | some table => ofTable table

/-- The settings in a text that comes from a file. -/
def parse (text : String) (origin : Path) : Except ReleaseError ProjectFile :=
  match ofText text with
  | .ok file => .ok file
  | .error fault => .error (.invalidConfig (origin.text ++ ": " ++ fault.message))

/-- Reads a text file. -/
def readText (files : FileSystem) (path : Path) : Except IoError String :=
  match files.contentOf path with
  | .error error => .error error
  | .ok content =>
    match Utf8.decode? content with
    | some text => .ok text
    | none => .error (.described .invalidData (some "stream did not contain valid UTF-8"))

/-- The settings of the project in a directory. -/
def load (files : FileSystem) (projectRoot : Path) : Except ReleaseError ProjectFile :=
  let path := projectRoot / fileName
  match readText files path with
  | .ok text => parse text path
  | .error error =>
    if error = .noEntry then .ok {}
    else .error (.invalidConfig ("failed to read " ++ path.text ++ ": " ++ error.message))

/-- The manifest of a project with these settings. -/
def manifest (file : ProjectFile) : Manifest where
  configFile := file.configFile.getD Manifest.standard.configFile
  readme := file.readme.getD Manifest.standard.readme
  licenses := file.licenses.getD Manifest.standard.licenses

end ProjectFile
end ReleasePacker
