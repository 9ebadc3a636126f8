import ReleasePacker.Shell.Reader
import ReleasePacker.Shell.Utilities

/-!
# Running shell scripts

A script runs on a machine: files, variables, what has been written, and how much time has gone
by. Time goes by only where a script sleeps. What a script runs is bounded by the fuel that it is
given, so an endless loop comes to an end as well, after all time has gone by.
-/

namespace ReleasePacker.Shell

/-- Where a stream leads. -/
inductive Sink where
  | stdout
  | stderr
  | file (path : Path)
  deriving DecidableEq, Repr

/-- The streams of a command. -/
structure Channels where
  input : Bytes := []
  out : Sink := .stdout
  err : Sink := .stderr

/-- What scripts change. -/
structure Machine where
  files : FileSystem
  environment : List (String × String)
  /-- The exit status of the last command. -/
  status : Nat := 0
  out : Array UInt8 := #[]
  err : Array UInt8 := #[]
  /-- How many milliseconds have gone by. -/
  elapsed : Nat := 0

/-- The parameters of one script. -/
structure Frame where
  name : String
  arguments : List String
  processId : Nat := 1000

/-- How a command leaves the script that it stands in. -/
inductive Flow where
  /-- The script goes on. -/
  | next
  /-- The script ends. -/
  | leave
  /-- A signal ends the script. -/
  | killed (signal : Nat)
  deriving DecidableEq, Repr

/-- More milliseconds than any program may run. -/
def foreverMilliseconds : Nat := Nat.pow 2 80

namespace Machine

/-- The value of a variable, empty if it is unset. -/
def valueOf (machine : Machine) (name : String) : String :=
  (machine.environment.lookup name).getD ""

/-- The machine with a variable set. -/
def assign (machine : Machine) (name value : String) : Machine :=
  { machine with
    environment := (name, value) :: machine.environment.filter fun entry => entry.1 ≠ name }

/-- The machine with an exit status. -/
def withStatus (machine : Machine) (status : Nat) : Machine := { machine with status }

/-- The machine after something has been written. -/
def write (machine : Machine) (sink : Sink) (bytes : Bytes) : Machine :=
  match sink with
  | .stdout => { machine with out := machine.out ++ bytes.toArray }
  | .stderr => { machine with err := machine.err ++ bytes.toArray }
  | .file path =>
    match machine.files.contentOf path with
    | .error _ => machine
    | .ok before =>
      match machine.files.writeFile path (before ++ bytes) with
      | .ok files => { machine with files }
      | .error _ => machine

/-- The machine after a process of its own has run on it: what the process did to files and
streams stays, and the variables and the working directory are as before. -/
def afterProcess (machine after : Machine) : Machine :=
  { after with
    environment := machine.environment
    files := { after.files with workingDirectory := machine.files.workingDirectory } }

end Machine

/-- The value of a parameter. -/
def parameterValue (frame : Frame) (machine : Machine) (name : String) : String :=
  if name = "*" || name = "@" then Text.joinWith " " frame.arguments
  else if name = "#" then toString frame.arguments.length
  else if name = "?" then toString machine.status
  else if name = "$" then toString frame.processId
  else if name = "0" then frame.name
  else
    match number? name with
    | some position => (frame.arguments[position.toNat - 1]?).getD ""
    | none => machine.valueOf name

/-- The text that a piece stands for. -/
def pieceText (frame : Frame) (machine : Machine) : Piece → String
  | .text chars _ => String.ofList chars
  | .parameter name fallback _ =>
    let value := parameterValue frame machine name
    if value = "" then fallback.getD "" else value
  | .arithmetic expression _ =>
    match arithmetic? machine.valueOf expression with
    | some value => toString value
    | none => ""

/-- The text that a word stands for where it is not cut. -/
def wordText (frame : Frame) (machine : Machine) (word : Word) : String :=
  String.join (word.map (pieceText frame machine))

/-- The fields that a word is cut into so far, last first, and the field under way. -/
abbrev Fields := List String × Option (List Char)

/-- Adds text that is not cut. -/
def addText (fields : Fields) (text : List Char) : Fields :=
  (fields.1, some (fields.2.getD [] ++ text))

/-- Adds text that is cut at blanks. -/
def addCutText (fields : Fields) (text : List Char) : Fields :=
  text.foldl
    (fun fields c =>
      if c = ' ' || c = '\t' || c = '\n' then
        match fields.2 with
        | some field => (String.ofList field :: fields.1, none)
        | none => fields
      else addText fields [c])
    fields

/-- The fields that a word is cut into. -/
def wordFields (frame : Frame) (machine : Machine) (word : Word) : List String :=
  match word with
  | [.text [] true, .parameter "@" none true] => frame.arguments
  | _ =>
    let fields : Fields := word.foldl
      (fun fields piece =>
        let text := (pieceText frame machine piece).toList
        match piece with
        | .text _ _ => addText fields text
        | .parameter _ _ quoted | .arithmetic _ quoted =>
          if quoted then addText fields text else addCutText fields text)
      ([], none)
    match fields.2 with
    | some field => (String.ofList field :: fields.1).reverse
    | none => fields.1.reverse

/-- The parts of a pattern; only unquoted stars and question marks match other text. -/
def patternParts (frame : Frame) (machine : Machine) (word : Word) : List PatternPart :=
  word.flatMap fun piece =>
    let text := (pieceText frame machine piece).toList
    match piece with
    | .text _ false =>
      text.map fun c => if c = '*' then .anyText else if c = '?' then .anyChar else .char c
    | _ => text.map .char

/-- Opens what redirections lead to; the text says what cannot be opened. -/
def redirect (frame : Frame) :
    Channels → Machine → List Redirection → Except String Channels × Machine
  | channels, machine, [] => (.ok channels, machine)
  | channels, machine, .input source :: rest =>
    let path := wordText frame machine source
    match machine.files.contentOf ⟨path⟩ with
    | .ok input => redirect frame { channels with input } machine rest
    | .error _ => (.error ("cannot open " ++ path ++ ": No such file"), machine)
  | channels, machine, .output stream append target :: rest =>
    let path := wordText frame machine target
    let sink := Sink.file ⟨path⟩
    let channels :=
      if stream = 2 then { channels with err := sink } else { channels with out := sink }
    if append && machine.files.isFile ⟨path⟩ then redirect frame channels machine rest
    else
      match machine.files.writeFile ⟨path⟩ [] 0o644 with
      | .ok files => redirect frame channels { machine with files } rest
      | .error error =>
        let reason :=
          if error = .noEntry then "Directory nonexistent"
          else if error = .isDirectory then "Is a directory"
          else IoError.message error
        (.error ("cannot create " ++ path ++ ": " ++ reason), machine)
  | channels, machine, .duplicate stream other :: rest =>
    let sink := if other = 2 then channels.err else channels.out
    let channels :=
      if stream = 2 then { channels with err := sink } else { channels with out := sink }
    redirect frame channels machine rest

/-- The programs that come with the system, by the folder that they are in. -/
def systemFolders : List String := ["/bin", "/usr/bin"]

/-- The programs that come with the system. -/
def systemPrograms : List String :=
  ["sh", "cat", "echo", "env", "false", "printf", "pwd", "sleep", "test", "true", "wc"]

/-- The folders of a system in which nothing is but its programs. -/
def systemTree : List (String × Node) :=
  let programs := Node.folder (systemPrograms.map fun name => (name, .file 0o755 []))
  [("bin", programs), ("usr", .folder [("bin", programs)]),
   ("dev", .folder [("null", .file 0o666 [])]), ("etc", .folder []), ("root", .folder [])]

/-- What a program is run from. -/
inductive Executable where
  /-- A program that comes with the system. -/
  | system (name : String)
  /-- A script for the shell, with the text after its first line's marker and all of its text. -/
  | script (path : String) (text : String)
  deriving DecidableEq, Repr

/-- The shell that a script's first line asks for, if it asks for one that there is. -/
def interpreterOf (files : FileSystem) (text : List Char) : Except IoError Unit :=
  match text with
  | '#' :: '!' :: rest =>
    let line := rest.takeWhile (· ≠ '\n')
    let path := (line.dropWhile fun c => c = ' ' || c = '\t').takeWhile fun c =>
      c ≠ ' ' && c ≠ '\t'
    if files.isFile ⟨String.ofList path⟩ then .ok () else .error .noEntry
  | _ => .error (.system 8)

/-- What the file at a path is as a program. -/
def executableAt (files : FileSystem) (path : String) : Except IoError Executable :=
  match files.find ⟨path⟩ with
  | .error error => .error error
  | .ok (location, .file mode content) =>
    if mode % 8 % 2 = 0 && mode / 8 % 2 = 0 && mode / 64 % 2 = 0 then .error .accessDenied
    else
      let folder := "/" ++ Text.joinWith "/" location.dropLast
      let name := location.getLast?.getD ""
      if systemFolders.contains folder && systemPrograms.contains name then .ok (.system name)
      else
        let text := Utf8.decodeLossyChars content
        match interpreterOf files text with
        | .ok () => .ok (.script path (String.ofList text))
        | .error error => .error error
  | .ok (_, .broken _ _ error) => .error error
  | .ok _ => .error .accessDenied

/-- The file that a program is run from: at the path itself, or in one of the folders in which
programs are looked for. -/
def resolveProgram (files : FileSystem) (folders : List String) (program : String) :
    Except IoError Executable :=
  if program = "" then .error .noEntry
  else if program.toList.contains '/' then executableAt files program
  else
    (folders.foldl
      (fun best folder =>
        match best with
        | .ok found => .ok found
        | .error error =>
          match executableAt files ((Path.mk folder) / program).text with
          | .ok found => .ok found
          | .error .noEntry | .error .notDirectory => .error error
          | .error other => .error other)
      (.error .noEntry))

/-- The folders in which programs are looked for. -/
def searchFolders (machine : Machine) : List String :=
  (Text.splitAt ':' (machine.valueOf "PATH").toList).map String.ofList

/-- The signals that end no process. -/
def ignoredSignals : List Nat := [0, 17, 18, 23, 28]

/-- The number of a signal given by number or name. -/
def signalNumber? (text : String) : Option Nat :=
  match number? text with
  | some value => some value.toNat
  | none =>
    let names := ["HUP", "INT", "QUIT", "ILL", "TRAP", "ABRT", "BUS", "FPE", "KILL", "USR1",
      "SEGV", "USR2", "PIPE", "ALRM", "TERM"]
    (names.findIdx? fun name => name = text || "SIG" ++ name = text).map (· + 1)

/-- Sends a signal. -/
def sendSignal (frame : Frame) (machine : Machine) (signal : Option Nat) (target : String) :
    Flow × Machine :=
  match signal with
  | none => (.next, machine.withStatus 2)
  | some signal =>
    if target ≠ toString frame.processId then (.next, machine.withStatus 1)
    else if ignoredSignals.contains signal then (.next, machine.withStatus 0)
    else (.killed signal, machine)

/-- How many lines, words or bytes an input has. -/
def countInput (words : List String) (input : Bytes) : Bytes :=
  let count :=
    if words.contains "-l" then input.countP (· = 10)
    else if words.contains "-w" then
      ((Text.splitAt 32 (input.map fun b => if b = 10 || b = 9 then 32 else b)).filter
        fun piece => !piece.isEmpty).length
    else input.length
  Utf8.encode (toString count) ++ [10]

/-- Runs a program that the shell knows itself or that comes with the system; `none` if it is
neither. -/
def runKnown (frame : Frame) (channels : Channels) (machine : Machine) (program : String)
    (words : List String) : Option (Flow × Machine) :=
  match program with
  | ":" | "true" => some (.next, machine.withStatus 0)
  | "false" => some (.next, machine.withStatus 1)
  | "echo" => some (.next, (machine.write channels.out (echoText words)).withStatus 0)
  | "printf" => some (.next, (machine.write channels.out (printfBytes words)).withStatus 0)
  | "pwd" =>
    let here := "/" ++ Text.joinWith "/" machine.files.workingDirectory
    some (.next, (machine.write channels.out (Utf8.encode (here ++ "\n"))).withStatus 0)
  | "test" => some (.next, machine.withStatus (testStatus words))
  | "[" =>
    if words.getLast? = some "]" then some (.next, machine.withStatus (testStatus words.dropLast))
    else some (.next, machine.withStatus 2)
  | "exit" =>
    match words with
    | [] => some (.leave, machine)
    | word :: _ =>
      match number? word with
      | some value =>
        if value < 0 then some (.leave, machine.withStatus 2)
        else some (.leave, machine.withStatus (value.toNat % 256))
      | none => some (.leave, machine.withStatus 2)
  | "cd" =>
    match machine.files.find ⟨words.headD (machine.valueOf "HOME")⟩ with
    | .ok (location, .folder _) =>
      let files := { machine.files with workingDirectory := location }
      some (.next, { machine with files }.withStatus 0)
    | _ => some (.next, machine.withStatus 2)
  | "export" | "unset" | "set" | "shift" => some (.next, machine.withStatus 0)
  | "kill" =>
    match words with
    | ["-s", name, target] => some (sendSignal frame machine (signalNumber? name) target)
    | [option, target] =>
      some (sendSignal frame machine (signalNumber? (String.ofList (option.toList.drop 1))) target)
    | [target] => some (sendSignal frame machine (some 15) target)
    | _ => some (.next, machine.withStatus 2)
  | _ => none
where
  testStatus (words : List String) : Nat :=
    match testHolds machine.files words with
    | some true => 0
    | some false => 1
    | none => 2

/-- Runs a program that comes with the system. -/
def runSystem (channels : Channels) (machine : Machine) (program : String) (words : List String) :
    Machine :=
  match program with
  | "cat" =>
    if words.isEmpty then (machine.write channels.out channels.input).withStatus 0
    else
      words.foldl
        (fun machine word =>
          match machine.files.contentOf ⟨word⟩ with
          | .ok content => machine.write channels.out content
          | .error error =>
            (machine.write channels.err
              (Utf8.encode ("cat: " ++ word ++ ": " ++ systemReason error ++ "\n"))).withStatus 1)
        (machine.withStatus 0)
  | "wc" => (machine.write channels.out (countInput words channels.input)).withStatus 0
  | "sleep" =>
    let elapsed :=
      words.foldl (fun total word => total + (milliseconds? word).getD 0) machine.elapsed
    { machine with elapsed }.withStatus 0
  | "echo" =>
    (machine.write channels.out (Utf8.encode (Text.joinWith " " words) ++ [10])).withStatus 0
  | "false" => machine.withStatus 1
  | "printf" => (machine.write channels.out (printfBytes words)).withStatus 0
  | "pwd" =>
    let here := "/" ++ Text.joinWith "/" machine.files.workingDirectory
    (machine.write channels.out (Utf8.encode (here ++ "\n"))).withStatus 0
  | "test" =>
    machine.withStatus (match testHolds machine.files words with
      | some true => 0
      | some false => 1
      | none => 2)
  | _ => machine.withStatus 0
where
  systemReason : IoError → String
    | .system errno => IoError.systemText errno
    | other => other.message

/-- What the shell says about a command, on the line where it stands. -/
def complaint (frame : Frame) (line : Nat) (text : String) : Bytes :=
  Utf8.encode (frame.name ++ ": " ++ toString line ++ ": " ++ text ++ "\n")

/-- The exit status of a script that a signal has ended, as the script that ran it sees it. -/
def signalStatus (signal : Nat) : Nat := 128 + signal

/-- A way to run commands. -/
abbrev Run := Frame → Channels → Machine → Script → Flow × Machine

/-- Runs the text of another script with its own parameters. -/
def runText (run : Run) (name : String) (words : List String) (text : String) (frame : Frame)
    (channels : Channels) (assigned machine : Machine) : Flow × Machine :=
  match Script.read? text with
  | none =>
    (.next, (machine.write channels.err (complaint ⟨name, [], 0⟩ 1 "Syntax error")).withStatus 2)
  | some script =>
    let inner : Frame := ⟨name, words, frame.processId + 1⟩
    let (flow, after) := run inner channels { assigned with status := 0 } script
    let after := machine.afterProcess after
    match flow with
    | .killed signal => (.next, after.withStatus (signalStatus signal))
    | _ => (.next, after)

/-- Runs a program by its name. -/
def runNamed (run : Run) (line : Nat) (program : String) (words : List String) (frame : Frame)
    (channels : Channels) (assigned machine : Machine) : Flow × Machine :=
  match runKnown frame channels machine program words with
  | some (flow, machine) => (flow, machine)
  | none =>
    match resolveProgram machine.files (searchFolders machine) program with
    | .error error =>
      if error = .accessDenied then
        (.next, (machine.write channels.err
          (complaint frame line (program ++ ": Permission denied"))).withStatus 126)
      else
        (.next, (machine.write channels.err
          (complaint frame line (program ++ ": not found"))).withStatus 127)
    | .ok (.system "sh") =>
      match words with
      | "-c" :: text :: rest =>
        runText run (rest.headD "sh") (rest.drop 1) text frame channels assigned machine
      | _ => (.next, machine.withStatus 0)
    | .ok (.system name) => (.next, runSystem channels machine name words)
    | .ok (.script path text) => runText run path words text frame channels assigned machine

/-- Runs a command, given how the commands in it and the scripts that it calls are run. -/
def evalWith (run : Run) (frame : Frame) (channels : Channels) (machine : Machine) :
    Script → Flow × Machine
  | .nothing => (.next, machine)
  | .simple line assignments words redirections =>
    let fields := words.flatMap (wordFields frame machine)
    match redirect frame channels machine redirections with
    | (.error text, machine) =>
      (.next, (machine.write channels.err (complaint frame line text)).withStatus 2)
    | (.ok inner, machine) =>
      let assigned := assignments.foldl
        (fun (machine : Machine) item => machine.assign item.1 (wordText frame machine item.2))
        machine
      match fields with
      | [] => (.next, assigned.withStatus 0)
      | "exec" :: program :: words =>
        let (flow, machine) := runNamed run line program words frame inner assigned machine
        (if flow = .next then .leave else flow, machine)
      | program :: words => runNamed run line program words frame inner assigned machine
  | .pipe left right =>
    let (_, after) := run frame { channels with out := .stdout } { machine with out := #[] } left
    let input := after.out.toList
    let after := { machine.afterProcess after with out := machine.out }
    let (_, after) := run frame { channels with input } after right
    (.next, machine.afterProcess after)
  | .negate body =>
    let (flow, machine) := run frame channels machine body
    (flow,
      if flow = .next then machine.withStatus (if machine.status = 0 then 1 else 0) else machine)
  | .both left right =>
    let (flow, machine) := run frame channels machine left
    if flow = .next && machine.status = 0 then run frame channels machine right
    else (flow, machine)
  | .either left right =>
    let (flow, machine) := run frame channels machine left
    if flow = .next && machine.status ≠ 0 then run frame channels machine right
    else (flow, machine)
  | .sequence left right =>
    let (flow, machine) := run frame channels machine left
    if flow = .next then run frame channels machine right else (flow, machine)
  | .condition test yes no =>
    let (flow, machine) := run frame channels machine test
    if flow ≠ .next then (flow, machine)
    else if machine.status = 0 then run frame channels machine yes
    else run frame channels (machine.withStatus 0) no
  | .loop test whileTrue body =>
    let (flow, machine) := run frame channels machine test
    if flow ≠ .next then (flow, machine)
    else if (machine.status = 0) = whileTrue then
      let (flow, machine) := run frame channels machine body
      if flow ≠ .next then (flow, machine)
      else run frame channels machine (.loop test whileTrue body)
    else (.next, machine.withStatus 0)
  | .forEach name words body =>
    let values := words.flatMap (wordFields frame machine)
    values.foldl
      (fun (state : Flow × Machine) value =>
        if state.1 = .next then run frame channels (state.2.assign name value) body else state)
      (.next, machine)
  | .choice subject branches =>
    let text := (wordText frame machine subject).toList
    match branches.find? fun branch =>
        branch.1.any fun pattern => matchesPattern (patternParts frame machine pattern) text with
    | some (_, body) => run frame channels (machine.withStatus 0) body
    | none => (.next, machine.withStatus 0)
  | .subshell body =>
    let (flow, after) := run frame channels machine body
    (match flow with | .killed signal => .killed signal | _ => .next, machine.afterProcess after)

/-- Runs a command. -/
def eval : (fuel : Nat) → Run
  | 0, _, _, machine, _ => (.leave, { machine with elapsed := foreverMilliseconds })
  | fuel + 1, frame, channels, machine, script =>
    evalWith (eval fuel) frame channels machine script

end ReleasePacker.Shell
