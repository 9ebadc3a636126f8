import ReleasePacker.Process.Executor
import ReleasePacker.Shell.Interpreter

/-!
# Programs of the system

The executor that runs programs as the system does: it finds the file, starts it in a folder, and
stops waiting when the program runs for too long. Programs are shell scripts or come with the
system.
-/

namespace ReleasePacker

/-- Where and how programs are run. -/
structure SystemSettings where
  /-- The folder that programs start in, if it is not that of the packager. -/
  folder : Option Path := none
  /-- How many milliseconds a program may run. -/
  timeout : Option Nat := none
  /-- The variables of the environment. -/
  environment : List (String × String) := []

namespace SystemSettings

open Shell

/-- How many commands a program may run. -/
def maxCommands : Nat := 200000

/-- The files as a program sees them that starts in the given folder. -/
def enterFolder (settings : SystemSettings) (files : FileSystem) : Except IoError FileSystem :=
  match settings.folder with
  | none => .ok files
  | some folder =>
    match files.find folder with
    | .ok (location, .folder _) => .ok { files with workingDirectory := location }
    | .ok _ => .error .notDirectory
    | .error error => .error error

/-- Runs a program from its file. -/
def runExecutable (machine : Machine) (executable : Executable) (arguments : List String) :
    Flow × Machine :=
  let runScript (name : String) (words : List String) (text : String) : Flow × Machine :=
    match Script.read? text with
    | some script => eval maxCommands ⟨name, words, 1000⟩ {} machine script
    | none =>
      (.leave,
        (machine.write .stderr (complaint ⟨name, words, 1000⟩ 1 "Syntax error")).withStatus 2)
  match executable with
  | .script path text => runScript path arguments text
  | .system "sh" =>
    match arguments with
    | "-c" :: text :: rest => runScript (rest.headD "sh") (rest.drop 1) text
    | _ => (.leave, machine)
  | .system name => (.leave, runSystem {} machine name arguments)

/-- Runs a program. -/
def start (settings : SystemSettings) (command : Command) (files : FileSystem) :
    Except IoError (WaitStatus × Machine) := do
  if (command.program :: command.arguments).any fun word => word.toList.contains '\x00' then
    throw (.described .invalidInput (some "nul byte found in provided data"))
  let inside ← settings.enterFolder files
  let machine : Machine := { files := inside, environment := settings.environment }
  let executable ← resolveProgram inside (searchFolders machine) command.program
  let (flow, machine) := runExecutable machine executable command.arguments
  let machine :=
    { machine with files := { machine.files with workingDirectory := files.workingDirectory } }
  match flow with
  | .killed signal => return (.signaled signal false, machine)
  | _ => return (.exited machine.status, machine)

/-- Runs a program and takes what it answers from the machine that it ran on. -/
def answer {α : Type} (settings : SystemSettings) (command : Command) (files : FileSystem)
    (taken : WaitStatus → Machine → α) (shown : Machine → Bytes) : Reply Unit α :=
  match settings.start command files with
  | .error error => { result := .error (.io error), outside := (), files }
  | .ok (status, machine) =>
    let late := match settings.timeout with
      | some limit => decide (limit ≤ machine.elapsed)
      | none => false
    let result :=
      if late then .error (.timeout command.program (settings.timeout.getD 0 / 1000))
      else .ok (taken status machine)
    { result, shown := shown machine, outside := (), files := machine.files }

end SystemSettings

/-- The executor that runs programs as the system does. -/
def Executor.system (settings : SystemSettings) : Executor Unit where
  run command _ files :=
    settings.answer command files
      (fun status machine => ⟨status, machine.out.toList, machine.err.toList⟩) (fun _ => [])
  runAttached command _ files :=
    settings.answer command files (fun status _ => status)
      (fun machine => (machine.err ++ machine.out).toList)

end ReleasePacker
