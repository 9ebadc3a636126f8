import ReleasePacker.Process.Executor

/-!
# Scripted programs

A scripted executor answers from a list of expected commands, first come first served, and keeps
a record of all commands.
-/

namespace ReleasePacker

/-- A command that is expected, and what it is answered with. -/
structure Expectation where
  command : Command
  result : Except ReleaseError Output

/-- The state of a scripted executor. -/
structure Script where
  /-- The commands still expected. -/
  expected : List Expectation
  /-- The texts of all commands so far, in order. -/
  invocations : List String

namespace Script

/-- A script of which nothing has been played. -/
def ofList (expected : List Expectation) : Script := ⟨expected, []⟩

/-- Whether all that was expected has come. -/
def isFinished (script : Script) : Bool := script.expected.isEmpty

/-- Answers one command. The first expectation is used up whether the command agrees with it
or not. -/
def answer (command : Command) (script : Script) : Except ReleaseError Output × Script :=
  let invocations := script.invocations ++ [command.text]
  match script.expected with
  | [] =>
    (.error (.scriptMismatch ("unexpected command invocation: " ++ command.text)),
      ⟨[], invocations⟩)
  | next :: rest =>
    (if next.command = command then next.result
      else .error (.scriptMismatch
        ("expected `" ++ next.command.program ++ " " ++
          Text.joinWith " " next.command.arguments ++ "`, got `" ++ command.text ++ "`")),
      ⟨rest, invocations⟩)

end Script

/-- The executor of scripted programs, which touch no files. -/
def Executor.scripted : Executor Script where
  run command script files :=
    let (result, script) := script.answer command
    { result, outside := script, files }
  runAttached command script files :=
    let (result, script) := script.answer command
    { result := result.map Output.status, outside := script, files }

end ReleasePacker
