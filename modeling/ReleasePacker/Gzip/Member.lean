import ReleasePacker.Gzip.Inflate
import ReleasePacker.Digest.Crc32

/-!
# Gzip members

A gzip member wraps a deflate stream between a header and a trailer with the checksum and the
length of the decoded bytes. Readers take the decoded bytes as they come and learn about a
fault only when they have taken all that was decoded before it.
-/

namespace ReleasePacker

/-- Bytes that can be taken from a source, and what is met after them. -/
structure ByteStream where
  /-- The bytes that can be taken. -/
  bytes : Bytes
  /-- Whether the source ends properly after them; otherwise taking more is a failure. -/
  clean : Bool
  deriving Repr

namespace Gzip

/-- The longest text field of a header. -/
def maxField : Nat := 65535

/-- What follows a text field that ends with a zero byte. -/
def skipText (bytes : Bytes) : Option Bytes :=
  match bytes.dropWhile (· ≠ 0) with
  | [] => none
  | _ :: rest =>
    if maxField < bytes.length - rest.length - 1 then none else some rest

/-- What follows the header of a member. -/
def skipHeader (bytes : Bytes) : Option Bytes := do
  let start := bytes
  match bytes with
  | 0x1F :: 0x8B :: 8 :: flags :: _ :: _ :: _ :: _ :: _ :: _ :: rest =>
    if flags &&& 0xE0 ≠ 0 then none
    else
      let rest ←
        if flags &&& 4 = 0 then some rest
        else
          match rest with
          | l0 :: l1 :: rest =>
            let length := l0.toNat + 256 * l1.toNat
            if rest.length < length then none else some (rest.drop length)
          | _ => none
      let rest ← if flags &&& 8 = 0 then some rest else skipText rest
      let rest ← if flags &&& 16 = 0 then some rest else skipText rest
      if flags &&& 2 = 0 then some rest
      else
        match rest with
        | c0 :: c1 :: after =>
          let sum := Crc32.ofBytes (start.take (start.length - rest.length))
          if c0.toNat + 256 * c1.toNat = sum.toNat % 65536 then some after else none
        | _ => none
  | _ => none

/-- The four bytes of a word, lowest first. -/
def littleEndian (value : Nat) : Bytes :=
  [value.toUInt8, (value / 256).toUInt8, (value / 65536).toUInt8, (value / 16777216).toUInt8]

/-- The trailer of a member that decodes to the given bytes. -/
def trailer (content : Bytes) : Bytes :=
  littleEndian (Crc32.ofBytes content).toNat ++ littleEndian (content.length % 0x100000000)

/-- How many decoded bytes are handed over at a time. -/
def windowSize : Nat := 32768

/-- The decoded stream of the first member. A corrupt block loses what was decoded since the
last full window; a stream that breaks off loses nothing. -/
def unpack (bytes : Bytes) : ByteStream :=
  match skipHeader bytes with
  | none => ⟨[], false⟩
  | some body =>
    match Inflate.inflate body with
    | (out, .finished rest) =>
      let content := out.toList
      ⟨content, rest.take 8 = trailer content⟩
    | (out, .stopped .truncated) => ⟨out.toList, false⟩
    | (out, .stopped .corrupt) => ⟨out.toList.take (out.size / windowSize * windowSize), false⟩

/-- The header of a member without a name or a time. -/
def plainHeader : Bytes := [0x1F, 0x8B, 8, 0, 0, 0, 0, 0, 0, 0xFF]

/-- A member that decodes to the given bytes. -/
def pack (content : Bytes) : Bytes :=
  plainHeader ++ Inflate.store content ++ trailer content

end Gzip
end ReleasePacker
