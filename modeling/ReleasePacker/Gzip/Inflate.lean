import ReleasePacker.Gzip.Huffman

/-!
# Deflate streams

A deflate stream is a row of blocks: stored bytes, or literals and back references in a fixed
code or in one that the block describes itself. Reading stops at the end of the final block,
where the input ends, or at the first fault, and says how much was decoded by then.
-/

namespace ReleasePacker.Inflate

/-- Why reading stopped early. -/
inductive Fault where
  /-- The input ends within the stream. -/
  | truncated
  /-- The stream breaks the rules of the format. -/
  | corrupt
  deriving DecidableEq, Repr

/-- How the stream ended. -/
inductive Ending where
  /-- After the final block; what follows it is unread. -/
  | finished (rest : Bytes)
  | stopped (fault : Fault)

/-- What a part of the stream adds to the decoded bytes, and where reading goes on. -/
abbrev Progress := Array UInt8 × Except Fault BitReader

/-- The shortest length and the number of extra bits of the length symbols from 257 on. -/
def lengthTable : Array (Nat × Nat) :=
  #[(3, 0), (4, 0), (5, 0), (6, 0), (7, 0), (8, 0), (9, 0), (10, 0), (11, 1), (13, 1), (15, 1),
    (17, 1), (19, 2), (23, 2), (27, 2), (31, 2), (35, 3), (43, 3), (51, 3), (59, 3), (67, 4),
    (83, 4), (99, 4), (115, 4), (131, 5), (163, 5), (195, 5), (227, 5), (258, 0)]

/-- The shortest distance and the number of extra bits of the distance symbols. -/
def distanceTable : Array (Nat × Nat) :=
  #[(1, 0), (2, 0), (3, 0), (4, 0), (5, 1), (7, 1), (9, 2), (13, 2), (17, 3), (25, 3), (33, 4),
    (49, 4), (65, 5), (97, 5), (129, 6), (193, 6), (257, 7), (385, 7), (513, 8), (769, 8),
    (1025, 9), (1537, 9), (2049, 10), (3073, 10), (4097, 11), (6145, 11), (8193, 12),
    (12289, 12), (16385, 13), (24577, 13)]

/-- Appends bytes that stand a distance back; what would stand before the first byte is zero. -/
def copyBack (out : Array UInt8) (distance : Nat) : (length : Nat) → Array UInt8
  | 0 => out
  | length + 1 =>
    let byte := if distance ≤ out.size then out.getD (out.size - distance) 0 else 0
    copyBack (out.push byte) distance length

/-- The number that a symbol of a table stands for. -/
def readTabled (table : Array (Nat × Nat)) (symbol : Nat) (reader : BitReader) :
    Except Fault (Nat × BitReader) :=
  match table[symbol]? with
  | none => .error .corrupt
  | some (base, extra) =>
    match reader.number extra with
    | none => .error .truncated
    | some (more, reader) => .ok (base + more, reader)

/-- The length and the distance of a back reference whose length symbol has been read. -/
def readReference (distances : HuffmanCode) (symbol : Nat) (reader : BitReader) :
    Except Fault (Nat × Nat × BitReader) := do
  let (length, reader) ← readTabled lengthTable (symbol - 257) reader
  match distances.decode reader with
  | .ended => .error .truncated
  | .noWord => .error .corrupt
  | .symbol distanceSymbol reader =>
    let (distance, reader) ← readTabled distanceTable distanceSymbol reader
    return (length, distance, reader)

/-- Reads literals and back references up to the end of a block; at most `fuel` of them. -/
def readSymbols (literals distances : HuffmanCode) :
    (fuel : Nat) → Array UInt8 → BitReader → Progress
  | 0, out, _ => (out, .error .truncated)
  | fuel + 1, out, reader =>
    match literals.decode reader with
    | .ended => (out, .error .truncated)
    | .noWord => (out, .error .corrupt)
    | .symbol symbol reader =>
      if symbol < 256 then readSymbols literals distances fuel (out.push symbol.toUInt8) reader
      else if symbol = 256 then (out, .ok reader)
      else
        match readReference distances symbol reader with
        | .error fault => (out, .error fault)
        | .ok (length, distance, reader) =>
          readSymbols literals distances fuel (copyBack out distance length) reader

/-- The literal and length code of blocks without a code of their own. -/
def fixedLiterals : HuffmanCode :=
  .ofLengths (List.replicate 144 8 ++ List.replicate 112 9 ++ List.replicate 24 7 ++
    List.replicate 8 8)

/-- The distance code of blocks without a code of their own. -/
def fixedDistances : HuffmanCode := .ofLengths (List.replicate 32 5)

/-- The order in which a block gives the word lengths of its code for word lengths. -/
def lengthOrder : List Nat :=
  [16, 17, 18, 0, 8, 7, 9, 6, 10, 5, 11, 4, 12, 3, 13, 2, 14, 1, 15]

/-- Reads numbers of three bits. -/
def readTriples : (count : Nat) → BitReader → Option (List Nat × BitReader)
  | 0, reader => some ([], reader)
  | count + 1, reader => do
    let (first, reader) ← reader.number 3
    let (others, reader) ← readTriples count reader
    return (first :: others, reader)

/-- Reads word lengths, last first, until there are `wanted` of them; at most `fuel` symbols. -/
def readLengths (code : HuffmanCode) (wanted : Nat) :
    (fuel : Nat) → List Nat → BitReader → Except Fault (List Nat × BitReader)
  | 0, _, _ => .error .truncated
  | fuel + 1, known, reader =>
    if wanted ≤ known.length then
      if known.length = wanted then .ok (known, reader) else .error .corrupt
    else
      match code.decode reader with
      | .ended => .error .truncated
      | .noWord => .error .corrupt
      | .symbol symbol reader =>
        if symbol < 16 then readLengths code wanted fuel (symbol :: known) reader
        else
          let (value, base, bits) : Option Nat × Nat × Nat :=
            if symbol = 16 then (known.head?, 3, 2)
            else if symbol = 17 then (some 0, 3, 3)
            else (some 0, 11, 7)
          match value with
          | none => .error .corrupt
          | some value =>
            match reader.number bits with
            | none => .error .truncated
            | some (more, reader) =>
              readLengths code wanted fuel (List.replicate (base + more) value ++ known) reader

/-- Whether a block may use a code: its words must cover everything unless there is only one. -/
def isUsable (code : HuffmanCode) : Bool := code.isComplete || code.used ≤ 1

/-- Reads the codes that a block describes: first how many lengths there are, then a code for
word lengths, then in that code the word lengths of both codes. -/
def readCodes (reader : BitReader) : Except Fault (HuffmanCode × HuffmanCode × BitReader) := do
  let (literalCount, reader) ← needed (reader.number 5)
  let (distanceCount, reader) ← needed (reader.number 5)
  let (lengthCount, reader) ← needed (reader.number 4)
  let literalCount := literalCount + 257
  let distanceCount := distanceCount + 1
  if 286 < literalCount || 30 < distanceCount then throw .corrupt
  let (given, reader) ← needed (readTriples (lengthCount + 4) reader)
  let lengthOf (symbol : Nat) : Nat := ((lengthOrder.zip given).lookup symbol).getD 0
  let lengthCode := HuffmanCode.ofLengths ((List.range 19).map lengthOf)
  if !lengthCode.isComplete then throw .corrupt
  let wanted := literalCount + distanceCount
  let (lengths, reader) ← readLengths lengthCode wanted (wanted + 1) [] reader
  let lengths := lengths.reverse
  let distances := HuffmanCode.ofLengths (lengths.drop literalCount)
  let literals := HuffmanCode.ofLengths (lengths.take literalCount)
  if !isUsable distances || !isUsable literals then throw .corrupt
  return (literals, distances, reader)
where
  needed {α : Type} : Option α → Except Fault α
    | none => .error .truncated
    | some value => .ok value

/-- Reads a block of stored bytes: their number twice, the second time with all bits turned,
and then the bytes. -/
def readStored (out : Array UInt8) (reader : BitReader) : Progress :=
  match reader.aligned with
  | l0 :: l1 :: n0 :: n1 :: rest =>
    let length := l0.toNat + 256 * l1.toNat
    if length + n0.toNat + 256 * n1.toNat ≠ 0xFFFF then (out, .error .corrupt)
    else
      let bytes := rest.take length
      let out := out ++ bytes.toArray
      if bytes.length < length then (out, .error .truncated)
      else (out, .ok (.ofBytes (rest.drop length)))
  | _ => (out, .error .truncated)

/-- Reads one block; the answer also tells whether it is the final one. -/
def readBlock (out : Array UInt8) (reader : BitReader) : Bool × Progress :=
  match reader.number 1 with
  | none => (true, out, .error .truncated)
  | some (final, reader) =>
    match reader.number 2 with
    | none => (true, out, .error .truncated)
    | some (kind, reader) =>
      let progress :=
        if kind = 0 then readStored out reader
        else if kind = 1 then
          readSymbols fixedLiterals fixedDistances (reader.remaining + 1) out reader
        else if kind = 2 then
          match readCodes reader with
          | .error fault => (out, .error fault)
          | .ok (literals, distances, reader) =>
            readSymbols literals distances (reader.remaining + 1) out reader
        else (out, .error .corrupt)
      (final = 1, progress)

/-- Reads blocks up to the final one; at most `fuel` of them. -/
def readBlocks : (fuel : Nat) → Array UInt8 → BitReader → Array UInt8 × Ending
  | 0, out, _ => (out, .stopped .truncated)
  | fuel + 1, out, reader =>
    match readBlock out reader with
    | (_, out, .error fault) => (out, .stopped fault)
    | (true, out, .ok reader) => (out, .finished reader.aligned)
    | (false, out, .ok reader) => readBlocks fuel out reader

/-- The decoded bytes of a stream and how it ended. -/
def inflate (bytes : Bytes) : Array UInt8 × Ending :=
  readBlocks (8 * bytes.length + 1) #[] (.ofBytes bytes)

/-- The longest stored block. -/
def maxStored : Nat := 65535

/-- One stored block. -/
def storedBlock (final : Bool) (bytes : Bytes) : Bytes :=
  let length := bytes.length
  let turned := 0xFFFF - length
  (if final then 1 else 0) :: length.toUInt8 :: (length / 256).toUInt8 :: turned.toUInt8 ::
    (turned / 256).toUInt8 :: bytes

/-- The stored blocks of a byte list; at most `fuel` before the final one. -/
def storeBlocks : (fuel : Nat) → Bytes → Bytes
  | 0, bytes => storedBlock true bytes
  | fuel + 1, bytes =>
    if bytes.length ≤ maxStored then storedBlock true bytes
    else storedBlock false (bytes.take maxStored) ++ storeBlocks fuel (bytes.drop maxStored)

/-- A stream of stored blocks that decodes to the given bytes. -/
def store (bytes : Bytes) : Bytes :=
  storeBlocks (bytes.length / maxStored) bytes

end ReleasePacker.Inflate
