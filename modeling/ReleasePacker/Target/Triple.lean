import ReleasePacker.Text.Lines

/-!
# Target triples

A release is built for one target, named by components with hyphens between them: an
architecture, a vendor and an operating system at least.
-/

namespace ReleasePacker

/-- The rules for triples, in the order in which they are checked. -/
inductive TripleFault where
  | empty
  | forbiddenCharacter
  | tooFewComponents
  | emptyComponent
  deriving DecidableEq, Repr

/-- The text shown for a broken rule. -/
def TripleFault.message : TripleFault → String
  | empty => "triple is empty"
  | forbiddenCharacter => "only ASCII letters, digits, '_', '.' and '-' are allowed"
  | tooFewComponents => "expected at least \x7barch\x7d-\x7bvendor\x7d-\x7bos\x7d"
  | emptyComponent => "triple contains an empty component"

namespace TargetTriple

/-- Whether a character may stand in a component of a triple. -/
def isComponentChar (c : Char) : Bool :=
  ('a' ≤ c && c ≤ 'z') || ('A' ≤ c && c ≤ 'Z') || ('0' ≤ c && c ≤ '9') || c = '_' || c = '.'

/-- The components of a text, at its hyphens. -/
def componentsOf (text : String) : List (List Char) :=
  Text.splitAt '-' text.toList

/-- The first rule that a text breaks. -/
def faultOf (text : String) : Option TripleFault :=
  if text.toList.isEmpty then some .empty
  else if text.toList.any fun c => !(isComponentChar c || c = '-') then some .forbiddenCharacter
  else if (componentsOf text).length < 3 then some .tooFewComponents
  else if (componentsOf text).any List.isEmpty then some .emptyComponent
  else none

end TargetTriple

/-- A target triple. -/
structure TargetTriple where
  /-- The triple as text. -/
  text : String
  /-- The text keeps all rules. -/
  wellFormed : TargetTriple.faultOf text = none
  deriving DecidableEq

namespace TargetTriple

instance : ToString TargetTriple := ⟨TargetTriple.text⟩

/-- The triple that a text is, or the first rule that it breaks. -/
def ofText (text : String) : Except TripleFault TargetTriple :=
  match fault : faultOf text with
  | some found => .error found
  | none => .ok ⟨text, fault⟩

/-- Whether a list of characters contains another as a run. -/
def containsRun (run : List Char) : List Char → Bool
  | [] => run.isEmpty
  | c :: rest => run.isPrefixOf (c :: rest) || containsRun run rest

/-- What executables of the target end in. -/
def executableSuffix (triple : TargetTriple) : String :=
  if containsRun "windows".toList triple.text.toList then ".exe" else ""

end TargetTriple
end ReleasePacker
