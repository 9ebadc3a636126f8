import ReleasePacker.FileSystem.Operations
import ReleasePacker.Text.Quoted

/-!
# Temporary names

A temporary file or folder gets a name that nothing has: names are tried one after another until
one is free.
-/

namespace ReleasePacker.FileSystem

/-- How many names are tried. -/
def maxAttempts : Nat := 65536

/-- Tries to make something at one path after another, as long as what fails is that the name is
taken. `left` counts the paths still to be tried. -/
def firstFree (make : Path → Except IoError FileSystem) (candidate : Nat → Path) :
    (left next : Nat) → Except IoError (Path × FileSystem)
  | 0, _ => .error (.described .alreadyExists (some "too many temporary files exist"))
  | left + 1, next =>
    match make (candidate next) with
    | .ok made => .ok (candidate next, made)
    | .error error =>
      if error = .entryExists then firstFree make candidate left (next + 1)
      else
        .error (.described .other
          (some (error.message ++ " at path " ++ Text.quoted (candidate next).text)))

/-- Makes something in a folder under a free name between a front and an end. -/
def makeTemporary (fs : FileSystem) (uniqueText : Nat → String)
    (make : FileSystem → Path → Except IoError FileSystem) (folder : Path) (front ending : String) :
    Except IoError (Path × FileSystem) :=
  let place : Path :=
    if folder.isAbsolute then folder
    else ⟨"/" ++ Text.joinWith "/" fs.workingDirectory⟩ / folder
  firstFree (make fs) (fun attempt => place / (front ++ uniqueText attempt ++ ending)) maxAttempts 0

end ReleasePacker.FileSystem
