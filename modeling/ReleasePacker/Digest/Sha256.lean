import ReleasePacker.Text.Utf8

/-!
# SHA-256

The digest of a message is defined on the padded message as a whole. A `Stream` computes it
from pieces as they are read, with less than one block in hand.
-/

namespace ReleasePacker.Sha256

/-- The eight words carried from block to block. -/
structure State where
  a : UInt32
  b : UInt32
  c : UInt32
  d : UInt32
  e : UInt32
  f : UInt32
  g : UInt32
  h : UInt32
  deriving DecidableEq, Repr

/-- The words before the first block. -/
def initial : State :=
  ⟨0x6a09e667, 0xbb67ae85, 0x3c6ef372, 0xa54ff53a, 0x510e527f, 0x9b05688c, 0x1f83d9ab,
   0x5be0cd19⟩

/-- The constants of the sixty-four rounds. -/
def roundConstants : List UInt32 :=
  [0x428a2f98, 0x71374491, 0xb5c0fbcf, 0xe9b5dba5, 0x3956c25b, 0x59f111f1, 0x923f82a4,
   0xab1c5ed5, 0xd807aa98, 0x12835b01, 0x243185be, 0x550c7dc3, 0x72be5d74, 0x80deb1fe,
   0x9bdc06a7, 0xc19bf174, 0xe49b69c1, 0xefbe4786, 0x0fc19dc6, 0x240ca1cc, 0x2de92c6f,
   0x4a7484aa, 0x5cb0a9dc, 0x76f988da, 0x983e5152, 0xa831c66d, 0xb00327c8, 0xbf597fc7,
   0xc6e00bf3, 0xd5a79147, 0x06ca6351, 0x14292967, 0x27b70a85, 0x2e1b2138, 0x4d2c6dfc,
   0x53380d13, 0x650a7354, 0x766a0abb, 0x81c2c92e, 0x92722c85, 0xa2bfe8a1, 0xa81a664b,
   0xc24b8b70, 0xc76c51a3, 0xd192e819, 0xd6990624, 0xf40e3585, 0x106aa070, 0x19a4c116,
   0x1e376c08, 0x2748774c, 0x34b0bcb5, 0x391c0cb3, 0x4ed8aa4a, 0x5b9cca4f, 0x682e6ff3,
   0x748f82ee, 0x78a5636f, 0x84c87814, 0x8cc70208, 0x90befffa, 0xa4506ceb, 0xbef9a3f7,
   0xc67178f2]

/-- A word with its bits turned to the right. -/
def rotateRight (word amount : UInt32) : UInt32 :=
  (word >>> amount) ||| (word <<< (32 - amount))

/-- The big-endian words of a byte list; fewer than four bytes at the end are dropped. -/
def words : Bytes → List UInt32
  | b0 :: b1 :: b2 :: b3 :: rest =>
    ((b0.toUInt32 <<< 24) ||| (b1.toUInt32 <<< 16) ||| (b2.toUInt32 <<< 8) ||| b3.toUInt32)
      :: words rest
  | _ => []

/-- The next word of the message schedule, from the sixteen before it, latest first. -/
def nextWord (recent : Array UInt32) : UInt32 :=
  let at' (back : Nat) : UInt32 := recent.getD (recent.size - back) 0
  let w15 := at' 15
  let w2 := at' 2
  let s0 := rotateRight w15 7 ^^^ rotateRight w15 18 ^^^ (w15 >>> 3)
  let s1 := rotateRight w2 17 ^^^ rotateRight w2 19 ^^^ (w2 >>> 10)
  at' 16 + s0 + at' 7 + s1

/-- The sixty-four words of the message schedule of a block. -/
def schedule (block : Bytes) : Array UInt32 :=
  (List.range 48).foldl (fun known _ => known.push (nextWord known)) (words block).toArray

/-- One round: a schedule word and a round constant taken into the working words. -/
def round (s : State) (word constant : UInt32) : State :=
  let s1 := rotateRight s.e 6 ^^^ rotateRight s.e 11 ^^^ rotateRight s.e 25
  let choice := (s.e &&& s.f) ^^^ (~~~s.e &&& s.g)
  let t1 := s.h + s1 + choice + constant + word
  let s0 := rotateRight s.a 2 ^^^ rotateRight s.a 13 ^^^ rotateRight s.a 22
  let majority := (s.a &&& s.b) ^^^ (s.a &&& s.c) ^^^ (s.b &&& s.c)
  ⟨t1 + (s0 + majority), s.a, s.b, s.c, s.d + t1, s.e, s.f, s.g⟩

/-- One block of sixty-four bytes taken into the chaining state. -/
def compress (state : State) (block : Bytes) : State :=
  let last := ((schedule block).toList.zip roundConstants).foldl
    (fun s pair => round s pair.1 pair.2) state
  ⟨state.a + last.a, state.b + last.b, state.c + last.c, state.d + last.d,
   state.e + last.e, state.f + last.f, state.g + last.g, state.h + last.h⟩

/-- The `count` low bytes of a number, most significant first. -/
def bigEndian : (count : Nat) → Nat → Bytes
  | 0, _ => []
  | count + 1, value => bigEndian count (value / 256) ++ [value.toUInt8]

/-- What follows a message of the given length: a set bit, the fewest zeros that leave eight
bytes to the end of a block, and the length in bits. -/
def padding (length : Nat) : Bytes :=
  0x80 :: List.replicate ((119 - length % 64) % 64) 0 ++ bigEndian 8 (length * 8)

/-- Takes all whole blocks of a byte list into the chaining state; at most `fuel` of them. -/
def absorbBlocks : (fuel : Nat) → State → Bytes → State
  | 0, state, _ => state
  | fuel + 1, state, bytes =>
    if bytes.isEmpty then state
    else absorbBlocks fuel (compress state (bytes.take 64)) (bytes.drop 64)

/-- The bytes of the chaining state. -/
def State.bytes (s : State) : Bytes :=
  [s.a, s.b, s.c, s.d, s.e, s.f, s.g, s.h].flatMap fun word => bigEndian 4 word.toNat

/-- The digest of a message. -/
def digest (message : Bytes) : Bytes :=
  let padded := message ++ padding message.length
  (absorbBlocks (padded.length / 64) initial padded).bytes

/-- A digest under way. -/
structure Stream where
  /-- The chaining state after the whole blocks read so far. -/
  state : State
  /-- The bytes read since the last whole block, last first. -/
  recent : Bytes
  /-- How many bytes `recent` has. -/
  filled : Nat
  /-- How many bytes have been read altogether. -/
  length : Nat
  deriving DecidableEq, Repr

namespace Stream

/-- Nothing read yet. -/
def start : Stream := ⟨initial, [], 0, 0⟩

/-- Reads one byte; the sixty-fourth of a block completes it. -/
def push (stream : Stream) (byte : UInt8) : Stream :=
  if stream.filled + 1 = 64 then
    ⟨compress stream.state (byte :: stream.recent).reverse, [], 0, stream.length + 1⟩
  else ⟨stream.state, byte :: stream.recent, stream.filled + 1, stream.length + 1⟩

/-- Reads one piece of the message. -/
def absorb (stream : Stream) (piece : Bytes) : Stream :=
  piece.foldl push stream

/-- The digest of what has been read. -/
def finish (stream : Stream) : Bytes :=
  ((padding stream.length).foldl push stream).state.bytes

end Stream

/-- One hexadecimal digit. -/
def hexDigit (value : Nat) : Char :=
  if value < 10 then Char.ofNat (48 + value) else Char.ofNat (87 + value)

/-- The lower-case hexadecimal text of bytes, two digits each. -/
def hex (bytes : Bytes) : String :=
  String.ofList (bytes.flatMap fun byte => [hexDigit (byte.toNat / 16), hexDigit (byte.toNat % 16)])

end ReleasePacker.Sha256
