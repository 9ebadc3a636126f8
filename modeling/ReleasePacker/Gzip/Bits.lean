import ReleasePacker.Text.Utf8

/-!
# Reading bits

A compressed stream is read bit by bit, the lowest bit of each byte first, with steps that
return to a byte boundary.
-/

namespace ReleasePacker

/-- The unread part of a byte list, at a bit position. -/
structure BitReader where
  /-- The unread bits of a byte that has been begun, lowest first. -/
  pending : Nat
  /-- How many unread bits `pending` holds. -/
  count : Nat
  /-- The bytes after it. -/
  rest : Bytes
  deriving DecidableEq, Repr

namespace BitReader

/-- A reader at the start of a byte list. -/
def ofBytes (bytes : Bytes) : BitReader := ⟨0, 0, bytes⟩

/-- The next bit, as zero or one. -/
def bit (reader : BitReader) : Option (Nat × BitReader) :=
  if reader.count = 0 then
    match reader.rest with
    | [] => none
    | byte :: rest => some (byte.toNat % 2, ⟨byte.toNat / 2, 7, rest⟩)
  else some (reader.pending % 2, ⟨reader.pending / 2, reader.count - 1, reader.rest⟩)

/-- The next bits as a number, the first bit lowest. -/
def number : (bits : Nat) → BitReader → Option (Nat × BitReader)
  | 0, reader => some (0, reader)
  | bits + 1, reader => do
    let (low, reader) ← reader.bit
    let (high, reader) ← number bits reader
    return (low + 2 * high, reader)

/-- The unread whole bytes; what is left of a byte that has been begun is skipped. -/
def aligned (reader : BitReader) : Bytes := reader.rest

/-- How many bits are unread. -/
def remaining (reader : BitReader) : Nat := reader.count + 8 * reader.rest.length

end BitReader
end ReleasePacker
