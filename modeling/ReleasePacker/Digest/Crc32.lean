import ReleasePacker.Text.Utf8

/-!
# CRC-32

The checksum at the end of a gzip member: remainders of polynomials over two elements, with
bits in reversed order.
-/

namespace ReleasePacker.Crc32

/-- The reversed generator polynomial. -/
def polynomial : UInt32 := 0xEDB88320

/-- One bit shifted out of the remainder. -/
def shift (remainder : UInt32) : UInt32 :=
  if remainder &&& 1 = 1 then (remainder >>> 1) ^^^ polynomial else remainder >>> 1

/-- Eight bits shifted out of the remainder. -/
def shiftByte (remainder : UInt32) : UInt32 :=
  shift (shift (shift (shift (shift (shift (shift (shift remainder)))))))

/-- The remainders of the single bytes. -/
def table : Array UInt32 :=
  ((List.range 256).map fun byte => shiftByte byte.toUInt32).toArray

/-- One byte taken into the remainder. -/
def step (remainder : UInt32) (byte : UInt8) : UInt32 :=
  table.getD ((remainder ^^^ byte.toUInt32) &&& 0xFF).toNat 0 ^^^ (remainder >>> 8)

/-- The checksum of a byte list. -/
def ofBytes (bytes : Bytes) : UInt32 :=
  bytes.foldl step 0xFFFFFFFF ^^^ 0xFFFFFFFF

end ReleasePacker.Crc32
