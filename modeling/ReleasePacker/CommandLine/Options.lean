import ReleasePacker.Path

/-!
# Command line options

The options as a record, and the ways in which one of them can be given. An option that is given
twice counts as it was given last.
-/

namespace ReleasePacker

/-- What a command line asks for. -/
structure Options where
  target : Option String := none
  fromEnv : Bool := false
  name : Option String := none
  binary : Option String := none
  tag : Option String := none
  projectRoot : Option Path := none
  outputDir : Option Path := none
  tool : Option String := none
  skipInstall : Bool := false
  skipTests : Bool := false
  timeout : Option Nat := none
  dryRun : Bool := false
  json : Bool := false
  verbosity : Nat := 0
  quiet : Bool := false
  deriving DecidableEq, Repr

/-- An option that takes a value. -/
inductive ValueOption where
  | name
  | binary
  | tag
  | projectRoot
  | outputDir
  | tool
  | timeout
  deriving DecidableEq, Repr

/-- An option that is given or not. -/
inductive Switch where
  | fromEnv
  | skipInstall
  | skipTests
  | dryRun
  | json
  | quiet
  deriving DecidableEq, Repr

/-- What the name of an option stands for. -/
inductive OptionName where
  | value (option : ValueOption)
  | switch (switch : Switch)
  | verbose
  | help (long : Bool)
  | version
  deriving DecidableEq, Repr

namespace OptionName

/-- The long names. -/
def longNames : List (String × OptionName) :=
  [("from-env", .switch .fromEnv), ("name", .value .name), ("binary", .value .binary),
   ("tag", .value .tag), ("project-root", .value .projectRoot),
   ("output-dir", .value .outputDir), ("tool", .value .tool),
   ("skip-install", .switch .skipInstall), ("skip-tests", .switch .skipTests),
   ("timeout", .value .timeout), ("dry-run", .switch .dryRun), ("json", .switch .json),
   ("verbose", .verbose), ("quiet", .switch .quiet), ("help", .help true),
   ("version", .version)]

/-- The short names. -/
def shortNames : List (Char × OptionName) :=
  [('C', .value .projectRoot), ('o', .value .outputDir), ('v', .verbose), ('q', .switch .quiet),
   ('h', .help false), ('V', .version)]

/-- What a long name stands for. -/
def ofLong? (name : String) : Option OptionName := longNames.lookup name

/-- What a short name stands for. -/
def ofShort? (name : Char) : Option OptionName := shortNames.lookup name

end OptionName
end ReleasePacker
