import ReleasePacker.Text.Blank

/-!
# Version labels

A version label names a release in file names: any text without blanks and path separators.
It comes from the tags of a repository or is given as a tag.
-/

namespace ReleasePacker

namespace VersionLabel

/-- Whether a character may not stand in a label. -/
def isForbidden (c : Char) : Bool := Text.isBlank c || c = '/' || c = '\\'

/-- Whether a text is a label. -/
def isLabel (text : String) : Bool := !text.toList.isEmpty && !text.toList.any isForbidden

end VersionLabel

/-- A version label. -/
structure VersionLabel where
  /-- The label as text. -/
  text : String
  /-- The text is a label. -/
  wellFormed : VersionLabel.isLabel text = true
  deriving DecidableEq

namespace VersionLabel

instance : ToString VersionLabel := ⟨VersionLabel.text⟩

/-- Why a text holds no label. -/
inductive Fault where
  | empty
  /-- The text without the blanks around it contains a forbidden character, of which this is the
  first. -/
  | contains (trimmed : String) (found : Char)
  deriving DecidableEq, Repr

/-- The text shown for a fault. -/
def Fault.message : Fault → String
  | empty => "version is empty"
  | contains trimmed found =>
    "version \"" ++ trimmed ++ "\" contains " ++ Text.quotedChar found

/-- The label in a text, blanks around it left out. -/
def ofText (text : String) : Except Fault VersionLabel :=
  let trimmed := Text.trim text
  if label : isLabel trimmed = true then .ok ⟨trimmed, label⟩
  else
    match trimmed.toList.find? isForbidden with
    | some found => .error (.contains trimmed found)
    | none => .error .empty

end VersionLabel
end ReleasePacker
