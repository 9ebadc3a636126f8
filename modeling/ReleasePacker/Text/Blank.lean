/-!
# Blank characters

Trimming, emptiness and the search for forbidden characters in names and version
labels all use one class of characters: those with the Unicode property
`White_Space`. Zero-width spaces, the byte-order mark and the ASCII information
separators are not in it.
-/

namespace ReleasePacker.Text

/-- The closed code point ranges of the Unicode property `White_Space`. -/
def blankRanges : List (Nat × Nat) :=
  [(0x09, 0x0D), (0x20, 0x20), (0x85, 0x85), (0xA0, 0xA0), (0x1680, 0x1680),
   (0x2000, 0x200A), (0x2028, 0x2029), (0x202F, 0x202F), (0x205F, 0x205F), (0x3000, 0x3000)]

/-- Whether a character has the Unicode property `White_Space`. -/
def isBlank (c : Char) : Bool :=
  blankRanges.any fun range => range.1 ≤ c.toNat && c.toNat ≤ range.2

/-- The list without its longest suffix of members that satisfy the test. -/
def dropWhileEnd {α : Type} (test : α → Bool) (list : List α) : List α :=
  (list.reverse.dropWhile test).reverse

/-- The characters without the blanks at both ends. -/
def trimChars (chars : List Char) : List Char :=
  dropWhileEnd isBlank (chars.dropWhile isBlank)

/-- The text without the blanks at both ends. -/
def trim (text : String) : String :=
  String.ofList (trimChars text.toList)

/-- Whether a text is empty or all blank. -/
def isBlankText (text : String) : Bool :=
  text.toList.all isBlank

/-- The lower-case hexadecimal digits of a number, without padding. -/
def hexDigits (value : Nat) : List Char :=
  Nat.toDigits 16 value

/-- A character between single quotes, as error messages show it: a backslash, a tab and
the line ends have their short escapes, every other blank except the space is a code point
in braces. -/
def quotedChar (c : Char) : String :=
  String.ofList ('\'' :: body ++ ['\''])
where
  body : List Char :=
    if c = '\t' then ['\\', 't']
    else if c = '\n' then ['\\', 'n']
    else if c = '\r' then ['\\', 'r']
    else if c = '\\' then ['\\', '\\']
    else if c = '\'' then ['\\', '\'']
    else if c ≠ ' ' && (isBlank c || c.toNat < 0x20 || c.toNat = 0x7F) then
      ['\\', 'u', '\x7b'] ++ hexDigits c.toNat ++ ['\x7d']
    else [c]

end ReleasePacker.Text
