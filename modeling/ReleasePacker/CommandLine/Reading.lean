import ReleasePacker.CommandLine.Options

/-!
# Reading command lines

Words are read from left to right. An option whose value is the next word is settled only when
the next option or target is read, or at the end; what is settled can still be missing, doubled
or no number. The first problem met decides.
-/

namespace ReleasePacker

/-- Why a command line is refused. -/
inductive UsageProblem where
  /-- A word is neither an option nor a target. -/
  | unknownArgument
  /-- An option lacks its value. -/
  | missingValue
  /-- A value is not what the option takes. -/
  | wrongValue
  /-- An option is given twice, or with one that excludes it. -/
  | conflict
  /-- An option without a value is given one. -/
  | needlessValue
  deriving DecidableEq, Repr

/-- Why reading a command line ends early. -/
inductive Interruption where
  | problem (problem : UsageProblem)
  /-- Help is asked for, at length or not. -/
  | help (long : Bool)
  | version
  deriving DecidableEq, Repr

namespace CommandLine

/-- What has been read and is not settled yet. -/
inductive Pending where
  | none
  /-- An option and the word after it, if that has been read. -/
  | value (option : ValueOption) (given : Option String)
  /-- A target. -/
  | target (text : String)
  deriving DecidableEq, Repr

/-- A command line that has been read up to some word. -/
structure Progress where
  options : Options := {}
  pending : Pending := .none
  /-- Whether a target has been read. -/
  targetRead : Bool := false
  /-- Whether only targets can follow. -/
  onlyTargets : Bool := false

/-- The result of reading a part of a command line. -/
abbrev Outcome := Except Interruption

/-- The most that the level of detail can be raised to. -/
def maxVerbosity : Nat := 255

/-- The greatest number of seconds that can be asked for. -/
def maxSeconds : Nat := Nat.pow 2 64 - 1

/-- A number of seconds: decimal digits, perhaps after a plus sign. -/
def seconds? (text : String) : Option Nat :=
  let digits := match text.toList with
    | '+' :: rest => rest
    | chars => chars
  if digits.isEmpty || digits.any fun c => c < '0' || '9' < c then none
  else
    let value := digits.foldl (fun value c => value * 10 + (c.toNat - 48)) 0
    if value ≤ maxSeconds then some value else none

/-- Sets an option that has not been set before. -/
def setOnce {α : Type} (current : Option α) (value : Outcome α) : Outcome (Option α) :=
  match current with
  | some _ => .error (.problem .conflict)
  | none => value.map some

/-- Gives an option its value. -/
def setValue (options : Options) (option : ValueOption) (text : String) : Outcome Options :=
  match option with
  | .name => do return { options with name := ← setOnce options.name (.ok text) }
  | .binary => do return { options with binary := ← setOnce options.binary (.ok text) }
  | .tag => do return { options with tag := ← setOnce options.tag (.ok text) }
  | .tool => do return { options with tool := ← setOnce options.tool (.ok text) }
  | .projectRoot => do
    return { options with projectRoot := ← setOnce options.projectRoot (.ok ⟨text⟩) }
  | .outputDir => do
    return { options with outputDir := ← setOnce options.outputDir (.ok ⟨text⟩) }
  | .timeout => do
    let value : Outcome Nat := match seconds? text with
      | some seconds => .ok seconds
      | none => .error (.problem .wrongValue)
    return { options with timeout := ← setOnce options.timeout value }

/-- Settles what has been read last. -/
def settle (progress : Progress) : Outcome Progress :=
  match progress.pending with
  | .none => .ok progress
  | .value _ none => .error (.problem .missingValue)
  | .value option (some text) => do
    let options ← setValue progress.options option text
    return { progress with options, pending := .none }
  | .target text =>
    .ok { progress with options := { progress.options with target := some text }, pending := .none }

/-- Turns a switch on, once. -/
def turnOn (options : Options) (switch : Switch) : Outcome Options :=
  let once (before : Bool) (after : Options) : Outcome Options :=
    if before then .error (.problem .conflict) else .ok after
  match switch with
  | .fromEnv => once options.fromEnv { options with fromEnv := true }
  | .skipInstall => once options.skipInstall { options with skipInstall := true }
  | .skipTests => once options.skipTests { options with skipTests := true }
  | .dryRun => once options.dryRun { options with dryRun := true }
  | .json => once options.json { options with json := true }
  | .quiet => once options.quiet { options with quiet := true }

/-- Reads an option that takes no value. -/
def readFlag (progress : Progress) (name : OptionName) : Outcome Progress := do
  let progress ← settle progress
  match name with
  | .switch switch => return { progress with options := ← turnOn progress.options switch }
  | .verbose =>
    let verbosity := min maxVerbosity (progress.options.verbosity + 1)
    return { progress with options := { progress.options with verbosity } }
  | .help long => throw (.help long)
  | .version => throw .version
  | .value _ => return progress

/-- Reads an option that takes a value, together with it if it stands in the same word. -/
def readValueOption (progress : Progress) (option : ValueOption) (attached : Option String) :
    Outcome Progress := do
  let progress ← settle progress
  match attached with
  | some text => return { progress with options := ← setValue progress.options option text }
  | none => return { progress with pending := .value option none }

/-- Reads a word that starts with two hyphens. -/
def readLong (progress : Progress) (body : List Char) : Outcome Progress :=
  let name := body.takeWhile (· ≠ '=')
  let attached := match body.drop name.length with
    | _ :: value => some (String.ofList value)
    | [] => none
  match OptionName.ofLong? (String.ofList name) with
  | none => .error (.problem .unknownArgument)
  | some (.value option) => readValueOption progress option attached
  | some other =>
    if attached.isSome then .error (.problem .needlessValue) else readFlag progress other

/-- Reads the letters of a word that starts with one hyphen. -/
def readShort (progress : Progress) : List Char → Outcome Progress
  | [] => .ok progress
  | letter :: rest =>
    match OptionName.ofShort? letter with
    | none => .error (.problem .unknownArgument)
    | some (.value option) =>
      let attached := match rest with
        | [] => none
        | '=' :: value => some (String.ofList value)
        | value => some (String.ofList value)
      readValueOption progress option attached
    | some other => do
      let progress ← readFlag progress other
      readShort progress rest

/-- Reads a word that is a target, or no argument at all. -/
def readTarget (progress : Progress) (word : String) : Outcome Progress :=
  if progress.targetRead then .error (.problem .unknownArgument)
  else do
    let progress ← settle progress
    return { progress with pending := .target word, targetRead := true }

/-- Reads a word that is no option: the value of the option before it, or a target. -/
def readPlain (progress : Progress) (word : String) : Outcome Progress :=
  match progress.pending with
  | .value option none => .ok { progress with pending := .value option (some word) }
  | _ => readTarget progress word

/-- Reads one word. -/
def readWord (progress : Progress) (word : String) : Outcome Progress :=
  if progress.onlyTargets then readTarget progress word
  else
    match word.toList with
    | ['-', '-'] => .ok { progress with onlyTargets := true }
    | '-' :: '-' :: body => readLong progress body
    | '-' :: letter :: rest => readShort progress (letter :: rest)
    | _ => readPlain progress word

/-- Reads all words and settles what is left. -/
def readWords (words : List String) : Outcome Options := do
  let progress ← words.foldlM readWord {}
  let progress ← settle progress
  if progress.options.quiet && progress.options.verbosity ≠ 0 then throw (.problem .conflict)
  return progress.options

end CommandLine

/-- What a command line asks for, or why reading it ends early. -/
def readCommandLine (words : List String) : Except Interruption Options :=
  CommandLine.readWords words

end ReleasePacker
