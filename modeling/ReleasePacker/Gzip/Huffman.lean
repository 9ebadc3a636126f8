import ReleasePacker.Gzip.Bits

/-!
# Canonical prefix codes

A code is given by the length of each symbol's code word. Among words of one length the
symbols are in order, and shorter words come before longer ones, so the lengths say it all.
-/

namespace ReleasePacker

/-- A canonical prefix code. -/
structure HuffmanCode where
  /-- How many words there are of each length, from one bit to fifteen. -/
  counts : List Nat
  /-- The symbols in the order of their words. -/
  symbols : Array Nat
  deriving Repr

namespace HuffmanCode

/-- The longest word, in bits. -/
def maxLength : Nat := 15

/-- The word lengths that occur, from one bit to fifteen. -/
def lengthRange : List Nat := (List.range maxLength).map (· + 1)

/-- The code in which the symbol at each position has a word of the given length; zero marks a
symbol without a word. -/
def ofLengths (lengths : List Nat) : HuffmanCode where
  counts := lengthRange.map fun length => lengths.count length
  symbols :=
    (lengthRange.flatMap fun length =>
      lengths.zipIdx.filterMap fun item => if item.1 = length then some item.2 else none).toArray

/-- How many symbols have a word. -/
def used (code : HuffmanCode) : Nat := code.symbols.size

/-- The share of all bit sequences that begin with a word, in units of `2 ^ -16`. -/
def weight (code : HuffmanCode) : Nat :=
  (lengthRange.zip code.counts).foldl (fun sum item => sum + item.2 * Nat.pow 2 (16 - item.1)) 0

/-- Whether every bit sequence begins with exactly one word. -/
def isComplete (code : HuffmanCode) : Bool := code.weight = 0x10000

/-- What decoding a symbol comes to. -/
inductive Decoded where
  | symbol (value : Nat) (rest : BitReader)
  /-- The input ends within a word. -/
  | ended
  /-- No word begins like the input. -/
  | noWord

/-- Looks for the word among those of the remaining lengths. `code` is the number read so far,
`first` the first word of the current length and `index` the place of its symbol. -/
def decodeFrom (symbols : Array Nat) :
    (counts : List Nat) → (code first index : Nat) → BitReader → Decoded
  | [], _, _, _, _ => .noWord
  | count :: counts, code, first, index, reader =>
    match reader.bit with
    | none => .ended
    | some (bit, reader) =>
      let code := code + bit
      if code < first + count then
        match symbols[index + (code - first)]? with
        | some value => .symbol value reader
        | none => .noWord
      else
        decodeFrom symbols counts (2 * code) (2 * (first + count)) (index + count) reader

/-- The next symbol. -/
def decode (code : HuffmanCode) (reader : BitReader) : Decoded :=
  decodeFrom code.symbols code.counts 0 0 0 reader

end HuffmanCode
end ReleasePacker
