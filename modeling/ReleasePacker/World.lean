import ReleasePacker.Process.Executor

/-!
# The surroundings of a run

A run works on files, drives programs and shows lines of progress. All that it does to its
surroundings is in a `World`; what the surroundings are like is in a `Platform`.

## Main definitions

* `Platform` — names for temporary files, the order of directory listings, the error stream
* `Event` — one thing that a run did outside itself
* `World` — the files, what the programs remember, and the events so far
* `Task` — a part of a run
-/

namespace ReleasePacker

/-- What the surroundings of a run are like. -/
structure Platform where
  /-- The six characters that make temporary names unique, in the order in which they are
  tried. -/
  uniqueText : Nat → String
  /-- The order in which a directory lists its entries. -/
  listingOrder : List String → List String
  /-- A listing has each entry once. -/
  listingOrder_perm : ∀ names, (listingOrder names).Perm names
  /-- Where temporary folders go. -/
  temporaryFolder : Path
  /-- The name of the processor architecture. -/
  architecture : String
  /-- The name of the operating system. -/
  operatingSystem : String
  /-- Whether the error stream takes a line, by how many were tried before. -/
  acceptsLine : Nat → Bool

/-- One thing that a run did outside itself. -/
inductive Event where
  /-- It ran a program and collected what the program wrote. -/
  | ran (command : Command) (result : Except ReleaseError Output)
  /-- It ran a program that wrote to the error stream. -/
  | ranAttached (command : Command) (result : Except ReleaseError WaitStatus) (shown : Bytes)
  /-- It asked for the tool. -/
  | askedForTool (result : Except ReleaseError String)
  /-- It asked for a download. -/
  | downloaded (url : String) (target : Path)
  /-- It wrote a line to the error stream, which took it or not. -/
  | wroteLine (line : String) (taken : Bool)

/-- The surroundings of a run. -/
structure World (σ : Type) where
  files : FileSystem
  /-- What programs and servers remember. -/
  outside : σ
  /-- What the run has done so far, in order. -/
  events : List Event := []

/-- A part of a run: it changes the surroundings, and answers or fails. -/
abbrev Task (σ α : Type) := ExceptT ReleaseError (StateM (World σ)) α

namespace World

variable {σ : Type}

/-- The world with one more event. -/
def record (world : World σ) (event : Event) : World σ :=
  { world with events := world.events ++ [event] }

/-- How many lines have been tried on the error stream. -/
def linesTried (world : World σ) : Nat :=
  world.events.countP fun event =>
    match event with
    | .wroteLine _ _ => true
    | _ => false

end World

namespace Task

variable {σ α : Type}

/-- Runs a task in a world. -/
def perform (task : Task σ α) (world : World σ) : Except ReleaseError α × World σ :=
  task.run.run world

/-- A task that only looks at the files. -/
def inspect (look : FileSystem → α) : Task σ α := do
  return look (← get).files

/-- A task that changes the files or fails and leaves them. -/
def changeFiles (failure : IoError → ReleaseError)
    (change : FileSystem → Except IoError FileSystem) : Task σ Unit := do
  let world ← get
  match change world.files with
  | .ok files => set { world with files }
  | .error error => throw (failure error)

/-- A task that changes the files, also where it fails. -/
def alterFiles (failure : IoError → ReleaseError)
    (change : FileSystem → Except IoError Unit × FileSystem) : Task σ Unit := fun world =>
  match change world.files with
  | (.ok (), files) => (.ok (), { world with files })
  | (.error error, files) => (.error (failure error), { world with files })

/-- Changes the files if that is possible. -/
def tryChangeFiles (change : FileSystem → Except IoError FileSystem) : Task σ Unit :=
  modify fun world =>
    match change world.files with
    | .ok files => { world with files }
    | .error _ => world

/-- Goes on with a second task whatever the first comes to, and then answers like the first. -/
def andAlways (task : Task σ α) (cleanup : Task σ Unit) : Task σ α := fun world =>
  match task world with
  | (result, world) => (result, (cleanup world).2)

/-- Runs a program and collects what it writes. -/
def runCommand (executor : Executor σ) (command : Command) :
    Task σ (Except ReleaseError Output) := do
  let world ← get
  let reply := executor.run command world.outside world.files
  set { world with files := reply.files, outside := reply.outside }
  modify (·.record (.ran command reply.result))
  return reply.result

/-- Runs a program that writes to the error stream. -/
def runAttached (executor : Executor σ) (command : Command) :
    Task σ (Except ReleaseError WaitStatus) := do
  let world ← get
  let reply := executor.runAttached command world.outside world.files
  set { world with files := reply.files, outside := reply.outside }
  modify (·.record (.ranAttached command reply.result reply.shown))
  return reply.result

/-- Whether a program can be run and succeeds. -/
def commandSucceeds (executor : Executor σ) (command : Command) : Task σ Bool := do
  match ← runCommand executor command with
  | .ok output => return output.status.isSuccess
  | .error _ => return false

/-- Writes a line to the error stream; it does not matter whether the stream takes it. -/
def writeLine (platform : Platform) (line : String) : Task σ Unit :=
  modify fun world => world.record (.wroteLine line (platform.acceptsLine world.linesTried))

end Task
end ReleasePacker
