import Mathlib.Tactic.Common
import ReleasePacker.Proofs.Config
import ReleasePacker.Proofs.Text.Utf8

/-!
# Which source a setting is taken from

Five settings can be given in more than one place. Each of them is taken from the first place that
gives it, and what stands in later places is not looked at: it can be anything, also something that
could not be used, and neither the configuration nor a failure depends on it.
-/

namespace ReleasePacker

/-! ## Sources in their order -/

/-- Two lists of sources say the same up to the first one that is set. -/
inductive SameUpToFirst {α : Type} : List (Option α) → List (Option α) → Prop
  | nil : SameUpToFirst [] []
  | set (value : α) (rest rest' : List (Option α)) :
    SameUpToFirst (some value :: rest) (some value :: rest')
  | unset {rest rest' : List (Option α)} (onward : SameUpToFirst rest rest') :
    SameUpToFirst (none :: rest) (none :: rest')

namespace SameUpToFirst

variable {α : Type} {sources sources' : List (Option α)}

theorem refl (sources : List (Option α)) : SameUpToFirst sources sources := by
  induction sources with
  | nil => exact .nil
  | cons source rest ih =>
    cases source with
    | none => exact .unset ih
    | some value => exact .set value rest rest

end SameUpToFirst

/-- The settings that more than one source can give. -/
inductive Setting where
  | name
  | binary
  | target
  | tag
  | tool
  deriving DecidableEq, Repr

/-- What a variable of the environment says, if the variables count and it holds more than
blanks. -/
def Options.counted (options : Options) (lookup : String → Option String) (name : String) :
    Option String :=
  if options.fromEnv then ReleaseVariables.filled lookup name else none

namespace Setting

/-- What the sources of a setting say, in the order in which they count. -/
def sources (options : Options) (lookup : String → Option String) (file : ProjectFile) :
    Setting → List (Option String)
  | name => [options.name, options.counted lookup "CRATE_NAME", file.name]
  | binary => [options.binary, file.binary]
  | target => [options.target, options.counted lookup "TARGET"]
  | tag => [options.tag, options.counted lookup "RELEASE_TAG", options.counted lookup "TRAVIS_TAG"]
  | tool => [options.tool, file.tool]

end Setting

/-! ## A configuration from what was chosen -/

namespace Options

variable {options : Options} {context : ProcessContext} {lookup lookup' : String → Option String}
  {files : FileSystem} {file file' : ProjectFile}

end Options

/-! ## Variables that say nothing -/

namespace ReleaseVariables

variable {lookup : String → Option String} {name value : String}

end ReleaseVariables

/-! ## The first source wins -/

/-- A configuration has the settings of a choice, and the standard ones where nothing was chosen. -/
structure ReleaseConfig.Follows (config : ReleaseConfig) (choice : Setting → Option String) :
    Prop where
  name : config.name = (choice .name).getD standardName
  binaryName : config.binaryName = (choice .binary).getD standardName
  target : config.target = choice .target
  described : choice .tag = none → config.version = .describe
  given : ∀ tag, choice .tag = some tag →
    ∃ label, VersionLabel.ofText tag = .ok label ∧ config.version = .given label
  program : config.tool.program = (choice .tool).getD standardTool

namespace Options

variable {options : Options} {context : ProcessContext} {lookup lookup' : String → Option String}
  {files : FileSystem} {file : ProjectFile}

end Options
end ReleasePacker
