import ReleasePacker.Text.Blank

/-!
# Release variables

Build services say what to release in variables of the environment. A variable that is blank
counts as unset.
-/

namespace ReleasePacker

/-- What the variables of the environment say about the release. -/
structure ReleaseVariables where
  target : Option String := none
  crateName : Option String := none
  tag : Option String := none
  deriving DecidableEq, Repr

namespace ReleaseVariables

/-- The value of a variable that is set to more than blanks. -/
def filled (lookup : String → Option String) (name : String) : Option String :=
  (lookup name).filter fun value => !Text.isBlankText value

/-- The variables that give the tag; the first one that is set counts. -/
def tagNames : List String := ["RELEASE_TAG", "TRAVIS_TAG"]

/-- Reads the variables from an environment. -/
def ofLookup (lookup : String → Option String) : ReleaseVariables where
  target := filled lookup "TARGET"
  crateName := filled lookup "CRATE_NAME"
  tag := tagNames.findSome? (filled lookup)

end ReleaseVariables
end ReleasePacker
