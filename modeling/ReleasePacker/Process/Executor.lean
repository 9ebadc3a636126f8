import ReleasePacker.Process.WaitStatus
import ReleasePacker.Error
import ReleasePacker.FileSystem.Operations
import ReleasePacker.Text.Blank

/-!
# Running programs

All external programs are run through an `Executor`. What the programs remember between runs,
and what they do to files, is up to the executor, so a release can be run against the shell, a
script of expected commands, or anything else.
-/

namespace ReleasePacker

/-- A program and its arguments. -/
structure Command where
  program : String
  arguments : List String
  deriving DecidableEq, Repr

/-- The program and its arguments with blanks between them. -/
def Command.text (command : Command) : String :=
  Text.joinWith " " (command.program :: command.arguments)

/-- How a program ended and what it wrote. -/
structure Output where
  status : WaitStatus
  stdout : Bytes
  stderr : Bytes
  deriving DecidableEq, Repr

/-- What a program wrote to its error stream, as text without blanks around it. -/
def Output.stderrText (output : Output) : String :=
  Text.trim (Utf8.decodeLossy output.stderr)

/-- What running a program comes to. -/
structure Reply (σ α : Type) where
  /-- The answer, or why there is none. -/
  result : Except ReleaseError α
  /-- What the program wrote to the error stream of the packager. -/
  shown : Bytes := []
  /-- What the programs remember from now on. -/
  outside : σ
  /-- The files from now on. -/
  files : FileSystem

/-- A way to run programs that remember a `σ` between runs. -/
structure Executor (σ : Type) where
  /-- Runs a program and collects what it writes. -/
  run : Command → σ → FileSystem → Reply σ Output
  /-- Runs a program that writes to the error stream of the packager. -/
  runAttached : Command → σ → FileSystem → Reply σ WaitStatus

/-- The executor for programs that remember a part of a larger state. -/
def Executor.within {σ τ : Type} (executor : Executor σ) (part : τ → σ) (update : τ → σ → τ) :
    Executor τ where
  run command outside files :=
    let reply := executor.run command (part outside) files
    { result := reply.result, shown := reply.shown, outside := update outside reply.outside,
      files := reply.files }
  runAttached command outside files :=
    let reply := executor.runAttached command (part outside) files
    { result := reply.result, shown := reply.shown, outside := update outside reply.outside,
      files := reply.files }

end ReleasePacker
