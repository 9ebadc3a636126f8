/-!
# Shell scripts

External programs may be shell scripts. This is the language of such scripts as far as they need
it: commands with redirections, pipelines, conditions, loops and choices.
-/

namespace ReleasePacker.Shell

/-- A piece of a word. A quoted piece is taken as it is; others are cut at blanks. -/
inductive Piece where
  | text (chars : List Char) (quoted : Bool)
  /-- The value of a parameter, or a fallback if it is unset or empty. -/
  | parameter (name : String) (fallback : Option String) (quoted : Bool)
  /-- The value of an arithmetic expression. -/
  | arithmetic (expression : List Char) (quoted : Bool)
  deriving DecidableEq, Repr

/-- A word with its expansions. -/
abbrev Word := List Piece

/-- Where a redirection leads. -/
inductive Redirection where
  /-- Standard input comes from a file. -/
  | input (source : Word)
  /-- A stream goes to a file, which is emptied first or added to. -/
  | output (stream : Nat) (append : Bool) (target : Word)
  /-- A stream goes where another goes. -/
  | duplicate (stream : Nat) (other : Nat)
  deriving DecidableEq, Repr

/-- A command. -/
inductive Script where
  /-- Assignments, a program with its arguments, and redirections. -/
  | simple (line : Nat) (assignments : List (String × Word)) (words : List Word)
      (redirections : List Redirection)
  /-- Each command reads what the one before it writes. -/
  | pipe (left right : Script)
  | negate (body : Script)
  /-- The second command runs if the first succeeds. -/
  | both (left right : Script)
  /-- The second command runs if the first fails. -/
  | either (left right : Script)
  | sequence (left right : Script)
  | condition (test yes no : Script)
  /-- The body runs as long as the test succeeds, or as long as it fails. -/
  | loop (test : Script) (whileTrue : Bool) (body : Script)
  | forEach (name : String) (words : List Word) (body : Script)
  | choice (subject : Word) (branches : List (List Word × Script))
  /-- The body runs with variables of its own. -/
  | subshell (body : Script)
  | nothing
  deriving Repr

end ReleasePacker.Shell
