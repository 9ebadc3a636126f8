/-!
# UTF-8

Output of external programs, file contents and archive headers are bytes; messages are
text. Decoding is a fold over the bytes with at most one unfinished character in hand, so
it can be split anywhere and long inputs need no deep recursion.
-/

namespace ReleasePacker

/-- The contents of a file, a stream or an archive record. -/
abbrev Bytes := List UInt8

namespace Utf8

/-- The bytes of one character: one to four of them, by the size of its code point. -/
def encodeChar (c : Char) : Bytes :=
  let n := c.toNat
  if n < 0x80 then [n.toUInt8]
  else if n < 0x800 then [(0xC0 + n / 64).toUInt8, (0x80 + n % 64).toUInt8]
  else if n < 0x10000 then
    [(0xE0 + n / 4096).toUInt8, (0x80 + n / 64 % 64).toUInt8, (0x80 + n % 64).toUInt8]
  else
    [(0xF0 + n / 262144).toUInt8, (0x80 + n / 4096 % 64).toUInt8,
     (0x80 + n / 64 % 64).toUInt8, (0x80 + n % 64).toUInt8]

/-- The bytes of a text. -/
def encode (text : String) : Bytes :=
  text.toList.flatMap encodeChar

/-- A character whose first bytes have been read. -/
structure Pending where
  /-- The bits read so far. -/
  code : Nat
  /-- How many bytes are still owed, at least one. -/
  owed : Nat
  /-- The least byte that may follow. -/
  low : Nat
  /-- The greatest byte that may follow. -/
  high : Nat
  deriving DecidableEq, Repr

/-- What the first byte of a character begins. -/
def firstByte (byte : Nat) : Option (Char ⊕ Pending) :=
  if byte < 0x80 then some (.inl (Char.ofNat byte))
  else if byte < 0xC2 then none
  else if byte < 0xE0 then some (.inr ⟨byte - 0xC0, 1, 0x80, 0xBF⟩)
  else if byte = 0xE0 then some (.inr ⟨0, 2, 0xA0, 0xBF⟩)
  else if byte = 0xED then some (.inr ⟨0xD, 2, 0x80, 0x9F⟩)
  else if byte < 0xF0 then some (.inr ⟨byte - 0xE0, 2, 0x80, 0xBF⟩)
  else if byte = 0xF0 then some (.inr ⟨0, 3, 0x90, 0xBF⟩)
  else if byte < 0xF4 then some (.inr ⟨byte - 0xF0, 3, 0x80, 0xBF⟩)
  else if byte = 0xF4 then some (.inr ⟨4, 3, 0x80, 0x8F⟩)
  else none

/-- The state of a decoder between two bytes. -/
structure Scanner where
  /-- The characters and gaps found so far, last first. -/
  found : List (Option Char)
  /-- The unfinished character, if any. -/
  pending : Option Pending
  deriving DecidableEq, Repr

/-- The state before the first byte. -/
def Scanner.start : Scanner := ⟨[], none⟩

/-- Reads a byte between two characters. -/
def Scanner.restart (found : List (Option Char)) (byte : Nat) : Scanner :=
  match firstByte byte with
  | none => ⟨none :: found, none⟩
  | some (.inl c) => ⟨some c :: found, none⟩
  | some (.inr pending) => ⟨found, some pending⟩

/-- Reads one byte. A byte that cannot continue the unfinished character ends it with a gap
and is read again between characters. -/
def Scanner.feed (scanner : Scanner) (byte : UInt8) : Scanner :=
  let b := byte.toNat
  match scanner.pending with
  | none => .restart scanner.found b
  | some p =>
    if p.low ≤ b ∧ b ≤ p.high then
      let code := p.code * 64 + (b - 0x80)
      if p.owed ≤ 1 then ⟨some (Char.ofNat code) :: scanner.found, none⟩
      else ⟨scanner.found, some ⟨code, p.owed - 1, 0x80, 0xBF⟩⟩
    else .restart (none :: scanner.found) b

/-- The characters and gaps in reading order; an unfinished character is a gap. -/
def Scanner.finish (scanner : Scanner) : List (Option Char) :=
  match scanner.pending with
  | none => scanner.found.reverse
  | some _ => (none :: scanner.found).reverse

/-- The characters of a byte sequence, with one gap for each maximal invalid piece. -/
def scan (bytes : Bytes) : List (Option Char) :=
  (bytes.foldl Scanner.feed .start).finish

/-- The characters of a byte sequence, with U+FFFD for each maximal invalid piece. -/
def decodeLossyChars (bytes : Bytes) : List Char :=
  (scan bytes).map fun unit => unit.getD '\uFFFD'

/-- The text of a byte sequence, with U+FFFD for each maximal invalid piece. -/
def decodeLossy (bytes : Bytes) : String :=
  String.ofList (decodeLossyChars bytes)

/-- The text of a byte sequence, if every byte of it belongs to a character. -/
def decode? (bytes : Bytes) : Option String :=
  let units := scan bytes
  if units.all Option.isSome then some (String.ofList (units.filterMap id)) else none

end Utf8
end ReleasePacker
