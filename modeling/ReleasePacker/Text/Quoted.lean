import ReleasePacker.Text.Blank

/-!
# Quoted text

Text between double quotes, as messages and as JSON show it.
-/

namespace ReleasePacker.Text

/-- A character of a quoted text in a message. -/
def quotedPiece (c : Char) : List Char :=
  if c = '"' then ['\\', '"']
  else if c = '\'' then [c]
  else if c = '\x00' then ['\\', '0']
  else (quotedChar.body c)

/-- A text between double quotes, as messages show it. -/
def quoted (text : String) : String :=
  String.ofList ('"' :: text.toList.flatMap quotedPiece ++ ['"'])

/-- Digits with zeros in front, up to a width. -/
def padLeft (width : Nat) (digits : List Char) : List Char :=
  List.replicate (width - digits.length) '0' ++ digits

/-- A character of a text in JSON. -/
def jsonPiece (c : Char) : List Char :=
  if c = '"' then ['\\', '"']
  else if c = '\\' then ['\\', '\\']
  else if c = '\x08' then ['\\', 'b']
  else if c = '\x0c' then ['\\', 'f']
  else if c = '\n' then ['\\', 'n']
  else if c = '\r' then ['\\', 'r']
  else if c = '\t' then ['\\', 't']
  else if c.toNat < 0x20 then '\\' :: 'u' :: padLeft 4 (hexDigits c.toNat)
  else [c]

/-- A text in JSON. -/
def jsonQuoted (text : String) : String :=
  String.ofList ('"' :: text.toList.flatMap jsonPiece ++ ['"'])

end ReleasePacker.Text
