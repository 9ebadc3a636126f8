import Mathlib.Data.List.Induction
import Mathlib.Data.Nat.NthRoot.Defs
import Mathlib.Data.Nat.Prime.Defs
import ReleasePacker.Proofs.Digest

/-!
# SHA-256 as it is specified

The specification speaks of numbers and recurrences: the constants are roots of primes, the words
of the schedule and the working words of a round are given by those before them, and a digest is
any text of thirty-two bytes that spells the last chaining words. The functions that compute
digests go other ways, with tables, arrays and shifts, and are shown here to meet it.

## Main definitions

* `Sha256.rootFraction` — where the constants come from
* `Sha256.scheduleWord`, `Sha256.workingWords`, `Sha256.chainingWords` — the recurrences
* `Sha256.IsPadded`, `Sha256.IsDigest` — the padded message and the digest of a message

## Main results

* `Sha256.compress_eq` — what is done to one block
* `Sha256.isDigest_iff` — a message has the one digest that is computed
-/

namespace ReleasePacker.Sha256

/-! ## The specification -/

/-- The number that bytes spell, most significant first. -/
def numberOf (bytes : Bytes) : Nat :=
  bytes.foldl (fun number byte => 256 * number + byte.toNat) 0

/-- The word that four bytes spell, from a given place on. -/
def wordAt (bytes : Bytes) (place : Nat) : UInt32 :=
  .ofNat (numberOf ((bytes.drop place).take 4))

/-- The first thirty-two bits of the fractional part of a root of a number. -/
def rootFraction (degree number : Nat) : UInt32 :=
  -- The whole part of the root is what a word has no room for.
  .ofNat (Nat.nthRoot degree (number * 2 ^ (32 * degree)))

/-- The first sixty-four primes. -/
def primes : List Nat := (List.range 312).filter Nat.Prime

/-- The constant of a round. -/
def roundConstant (round : Nat) : UInt32 := rootFraction 3 (primes.getD round 0)

/-- A word with its bits turned to the right. -/
def turned (amount : Nat) (word : UInt32) : UInt32 := ⟨word.toBitVec.rotateRight amount⟩

/-- The word of a round. The first sixteen are those of the block, and each later one comes from
four before it. -/
def scheduleWord (block : Bytes) (round : Nat) : UInt32 :=
  if round < 16 then wordAt block (4 * round)
  else
    let w2 := scheduleWord block (round - 2)
    let w15 := scheduleWord block (round - 15)
    (turned 17 w2 ^^^ turned 19 w2 ^^^ (w2 >>> 10)) + scheduleWord block (round - 7) +
      (turned 7 w15 ^^^ turned 18 w15 ^^^ (w15 >>> 3)) + scheduleWord block (round - 16)

/-- The working words after some rounds. -/
def workingWords (start : State) (block : Bytes) : (rounds : Nat) → State
  | 0 => start
  | round + 1 =>
    let s := workingWords start block round
    let t1 := s.h + (turned 6 s.e ^^^ turned 11 s.e ^^^ turned 25 s.e) +
      ((s.e &&& s.f) ^^^ (~~~s.e &&& s.g)) + roundConstant round + scheduleWord block round
    let t2 := (turned 2 s.a ^^^ turned 13 s.a ^^^ turned 22 s.a) +
      ((s.a &&& s.b) ^^^ (s.a &&& s.c) ^^^ (s.b &&& s.c))
    ⟨t1 + t2, s.a, s.b, s.c, s.d + t1, s.e, s.f, s.g⟩

/-- Two states added word by word. -/
def State.add (s t : State) : State :=
  ⟨s.a + t.a, s.b + t.b, s.c + t.c, s.d + t.d, s.e + t.e, s.f + t.f, s.g + t.g, s.h + t.h⟩

/-- The words of a state, in order. -/
def State.words (s : State) : List UInt32 := [s.a, s.b, s.c, s.d, s.e, s.f, s.g, s.h]

/-- The words before the first block. -/
def initialWords : State :=
  ⟨rootFraction 2 2, rootFraction 2 3, rootFraction 2 5, rootFraction 2 7, rootFraction 2 11,
   rootFraction 2 13, rootFraction 2 17, rootFraction 2 19⟩

/-- The chaining words after some blocks of a padded message. -/
def chainingWords (padded : Bytes) : (blocks : Nat) → State
  | 0 => initialWords
  | block + 1 =>
    let before := chainingWords padded block
    before.add (workingWords before ((padded.drop (64 * block)).take 64) 64)

/-- A message is followed by a set bit, the fewest zeros that leave eight bytes to the end of a
block, and there its length in bits. -/
def IsPadded (message padded : Bytes) : Prop :=
  ∃ (zeros : Nat) (ending : Bytes),
    padded = message ++ 0x80 :: List.replicate zeros 0 ++ ending ∧
    64 ∣ message.length + 1 + zeros + 8 ∧
    (∀ fewer, 64 ∣ message.length + 1 + fewer + 8 → zeros ≤ fewer) ∧
    ending.length = 8 ∧ numberOf ending = 8 * message.length % 2 ^ 64

/-- The digest of a message spells the chaining words after all blocks. -/
def IsDigest (message bytes : Bytes) : Prop :=
  ∃ padded, IsPadded message padded ∧ bytes.length = 32 ∧
    (List.range 8).map (fun index => wordAt bytes (4 * index)) =
      (chainingWords padded (padded.length / 64)).words

/-! ## Numbers and words -/

theorem numberOf_append_singleton (bytes : Bytes) (byte : UInt8) :
    numberOf (bytes ++ [byte]) = 256 * numberOf bytes + byte.toNat := by
  rw [numberOf, List.foldl_append]
  rfl

theorem numberOf_bigEndian (count value : Nat) :
    numberOf (bigEndian count value) = value % 256 ^ count := by
  induction count generalizing value with
  | zero =>
    rw [Nat.pow_zero, Nat.mod_one]
    rfl
  | succ count ih =>
    have low : value.toUInt8.toNat = value % 256 := UInt8.toNat_ofNat'
    rw [bigEndian, numberOf_append_singleton, ih, low, Nat.pow_succ', Nat.mod_mul, Nat.add_comm]

/-- Bytes are the number they spell, with as many places. -/
theorem bigEndian_numberOf (bytes : Bytes) : bigEndian bytes.length (numberOf bytes) = bytes := by
  induction bytes using List.reverseRecOn with
  | nil => rfl
  | append_singleton bytes byte ih =>
    have high : (256 * numberOf bytes + byte.toNat) / 256 = numberOf bytes := by
      have := byte.toNat_lt
      omega
    have low : (256 * numberOf bytes + byte.toNat).toUInt8 = byte := by
      apply UInt8.toNat_inj.mp
      have small := byte.toNat_lt
      simp only [Nat.toUInt8, UInt8.toNat_ofNat']
      omega
    rw [List.length_append, List.length_singleton, numberOf_append_singleton, bigEndian, high, low,
      ih]

theorem numberOf_injective {first second : Bytes} (same : first.length = second.length)
    (equal : numberOf first = numberOf second) : first = second := by
  rw [← bigEndian_numberOf first, ← bigEndian_numberOf second, same, equal]

/-- A byte shifted into one of the four places of a word. -/
theorem toNat_shifted (byte : UInt8) {amount : UInt32} (within : amount.toNat ≤ 24) :
    (byte.toUInt32 <<< amount).toNat = 2 ^ amount.toNat * byte.toNat := by
  have place : 2 ^ amount.toNat ≤ 2 ^ 24 := Nat.pow_le_pow_right (by decide) within
  have fits : 2 ^ amount.toNat * byte.toNat < 2 ^ 32 := by
    have small : byte.toNat ≤ 255 := Nat.le_of_lt_succ byte.toNat_lt
    calc 2 ^ amount.toNat * byte.toNat ≤ 2 ^ 24 * 255 := Nat.mul_le_mul place small
      _ < 2 ^ 32 := by decide
  rw [UInt32.toNat_shiftLeft, UInt8.toNat_toUInt32, Nat.shiftLeft_eq,
    Nat.mod_eq_of_lt (by omega : amount.toNat < 32), Nat.mul_comm, Nat.mod_eq_of_lt fits]

theorem shifted_eq_numberOf (b0 b1 b2 b3 : UInt8) :
    (b0.toUInt32 <<< 24) ||| (b1.toUInt32 <<< 16) ||| (b2.toUInt32 <<< 8) ||| b3.toUInt32 =
      .ofNat (numberOf [b0, b1, b2, b3]) := by
  have small0 := b0.toNat_lt
  have small1 := b1.toNat_lt
  have small2 := b2.toNat_lt
  have small3 := b3.toNat_lt
  -- The bytes stand in places of their own, so joining their bits adds them.
  have join1 : 2 ^ 24 * b0.toNat ||| 2 ^ 16 * b1.toNat =
      2 ^ 16 * (2 ^ 8 * b0.toNat + b1.toNat) := by
    rw [← Nat.two_pow_add_eq_or_of_lt (i := 24) (by omega)]
    omega
  have join2 : 2 ^ 16 * (2 ^ 8 * b0.toNat + b1.toNat) ||| 2 ^ 8 * b2.toNat =
      2 ^ 8 * (2 ^ 16 * b0.toNat + 2 ^ 8 * b1.toNat + b2.toNat) := by
    rw [← Nat.two_pow_add_eq_or_of_lt (i := 16) (by omega)]
    omega
  have join3 := Nat.two_pow_add_eq_or_of_lt (i := 8) small3
    (2 ^ 16 * b0.toNat + 2 ^ 8 * b1.toNat + b2.toNat)
  apply UInt32.toNat_inj.mp
  simp (disch := decide) only [UInt32.toNat_or, toNat_shifted, UInt32.reduceToNat,
    UInt8.toNat_toUInt32, UInt32.toNat_ofNat', join1, join2]
  rw [← join3, numberOf]
  simp only [List.foldl_cons, List.foldl_nil]
  omega

/-- Where no word begins there are fewer than four bytes. -/
theorem length_lt_of_no_word {bytes : Bytes}
    (short : ∀ b0 b1 b2 b3 rest, bytes = b0 :: b1 :: b2 :: b3 :: rest → False) :
    bytes.length < 4 := by
  rcases bytes with _ | ⟨b0, _ | ⟨b1, _ | ⟨b2, _ | ⟨b3, rest⟩⟩⟩⟩
  case cons.cons.cons.cons => exact (short b0 b1 b2 b3 rest rfl).elim
  all_goals simp

theorem words_eq (bytes : Bytes) :
    words bytes = (List.range (bytes.length / 4)).map fun index => wordAt bytes (4 * index) := by
  induction bytes using words.induct with
  | case1 b0 b1 b2 b3 rest ih =>
    have longer : (b0 :: b1 :: b2 :: b3 :: rest).length / 4 = rest.length / 4 + 1 := by
      simp only [List.length_cons]
      omega
    rw [words, shifted_eq_numberOf, ih, longer, List.range_succ_eq_map, List.map_cons, List.map_map]
    rfl
  | case2 bytes short =>
    rw [words, Nat.div_eq_of_lt (length_lt_of_no_word short), List.range_zero, List.map_nil]
    exact short

/-- Numbers that are spelled one after another are read as words. -/
theorem words_bigEndian_append (value : Nat) (rest : Bytes) :
    words (bigEndian 4 value ++ rest) = .ofNat value :: words rest := by
  obtain ⟨b0, b1, b2, b3, spelled⟩ : ∃ b0 b1 b2 b3, bigEndian 4 value = [b0, b1, b2, b3] :=
    ⟨_, _, _, _, rfl⟩
  have number : numberOf [b0, b1, b2, b3] = value % 256 ^ 4 := by
    rw [← spelled, numberOf_bigEndian]
  have word : UInt32.ofNat (value % 256 ^ 4) = UInt32.ofNat value := by
    apply UInt32.toNat_inj.mp
    simp
  rw [spelled, ← word, ← number, ← shifted_eq_numberOf]
  rfl

theorem words_flatMap_bigEndian (numbers : List UInt32) :
    words (numbers.flatMap fun word => bigEndian 4 word.toNat) = numbers := by
  induction numbers with
  | nil => rfl
  | cons word rest ih =>
    rw [List.flatMap_cons, words_bigEndian_append, ih, UInt32.ofNat_toNat]

/-- Bytes are made up of their words, if none of them is left over. -/
theorem flatMap_bigEndian_words {bytes : Bytes} (whole : bytes.length % 4 = 0) :
    (words bytes).flatMap (fun word => bigEndian 4 word.toNat) = bytes := by
  induction bytes using words.induct with
  | case1 b0 b1 b2 b3 rest ih =>
    have spelled := bigEndian_numberOf [b0, b1, b2, b3]
    have small : numberOf [b0, b1, b2, b3] % 2 ^ 32 = numberOf [b0, b1, b2, b3] := by
      rw [show 2 ^ 32 = 256 ^ 4 from rfl, ← numberOf_bigEndian]
      exact congrArg numberOf spelled
    have others : rest.length % 4 = 0 := by
      simp only [List.length_cons] at whole
      omega
    rw [words, shifted_eq_numberOf, List.flatMap_cons, ih others, UInt32.toNat_ofNat', small]
    exact congrArg (· ++ rest) spelled
  | case2 bytes short =>
    have few := length_lt_of_no_word short
    obtain rfl : bytes = [] := List.eq_nil_of_length_eq_zero (by omega)
    rfl

/-! ## Constants -/

/-- Below 312 only divisors up to the root, so below eighteen, need to be looked for. -/
theorem prime_iff_of_lt {number : Nat} (below : number < 312) : number.Prime ↔
    2 ≤ number ∧ ∀ divisor < 18, 2 ≤ divisor → divisor ∣ number → divisor = number := by
  constructor
  · intro prime
    refine ⟨prime.two_le, fun divisor _ some divides => ?_⟩
    exact ((Nat.dvd_prime prime).mp divides).resolve_left (by omega)
  · rintro ⟨some, only⟩
    by_contra composite
    have factor := Nat.minFac_prime (by omega : number ≠ 1)
    have small : number.minFac < 18 := by
      by_contra large
      have square := Nat.minFac_sq_le_self (by omega) composite
      have above := Nat.pow_le_pow_left (Nat.le_of_not_lt large) 2
      omega
    have same := only number.minFac small factor.two_le (Nat.minFac_dvd number)
    exact composite (same ▸ factor)

theorem primes_eq : primes =
    [2, 3, 5, 7, 11, 13, 17, 19, 23, 29, 31, 37, 41, 43, 47, 53, 59, 61, 67, 71, 73, 79, 83, 89, 97,
     101, 103, 107, 109, 113, 127, 131, 137, 139, 149, 151, 157, 163, 167, 173, 179, 181, 191, 193,
     197, 199, 211, 223, 227, 229, 233, 239, 241, 251, 257, 263, 269, 271, 277, 281, 283, 293, 307,
     311] := by
  have tested : primes = (List.range 312).filter fun number =>
      2 ≤ number ∧ ∀ divisor < 18, 2 ≤ divisor → divisor ∣ number → divisor = number := by
    apply List.filter_congr
    intro number inside
    simp only [prime_iff_of_lt (List.mem_range.mp inside)]
  rw [tested]
  decide +kernel

theorem roundConstants_eq : roundConstants = (List.range 64).map roundConstant := by
  have table : roundConstants = primes.map (rootFraction 3) := by
    rw [primes_eq]
    decide +kernel
  have count : primes.length = 64 := by
    rw [primes_eq]
    rfl
  have inOrder (numbers : List Nat) : numbers.map (rootFraction 3) =
      (List.range numbers.length).map fun round => rootFraction 3 (numbers.getD round 0) := by
    apply List.ext_getElem
    · simp
    · intro round inside _
      rw [List.length_map] at inside
      simp [inside]
  rw [table, inOrder, count]
  rfl

theorem initial_eq : initial = initialWords := by
  decide +kernel

/-! ## One block -/

/-- The two shifts of a word meet in the turned word. -/
theorem rotateRight_eq_turned (word : UInt32) {amount : UInt32} (some : 0 < amount)
    (less : amount < 32) : rotateRight word amount = turned amount.toNat word := by
  have above : 0 < amount.toNat := UInt32.lt_iff_toNat_lt.mp some
  have below : amount.toNat < 32 := UInt32.lt_iff_toNat_lt.mp less
  have left : (32 - amount).toNat = 32 - amount.toNat :=
    UInt32.toNat_sub_of_le _ _ (UInt32.le_of_lt less)
  apply UInt32.toNat_inj.mp
  change _ = (word.toBitVec.rotateRight amount.toNat).toNat
  rw [rotateRight, UInt32.toNat_or, UInt32.toNat_shiftRight, UInt32.toNat_shiftLeft, left,
    BitVec.rotateRight_def, BitVec.toNat_or, BitVec.toNat_ushiftRight, BitVec.toNat_shiftLeft,
    Nat.mod_eq_of_lt below, Nat.mod_eq_of_lt (by omega : 32 - amount.toNat < 32)]
  rfl

/-- From the words known so far comes the next one of the recurrence. -/
theorem nextWord_eq (block : Bytes) (later : Nat) :
    nextWord ((List.range (16 + later)).map (scheduleWord block)).toArray =
      scheduleWord block (16 + later) := by
  have back {distance : Nat} (some : 0 < distance) (within : distance ≤ 16) :
      ((List.range (16 + later)).map (scheduleWord block)).toArray.getD
        (16 + later - distance) 0 = scheduleWord block (16 + later - distance) := by
    have inside : 16 + later - distance < 16 + later := by omega
    simp [Array.getD, inside]
  rw [scheduleWord, if_neg (by omega)]
  simp (disch := decide) only [nextWord, List.size_toArray, List.length_map, List.length_range,
    back, rotateRight_eq_turned, UInt32.reduceToNat]
  ac_rfl

theorem schedule_eq {block : Bytes} (whole : block.length = 64) :
    (schedule block).toList = (List.range 64).map (scheduleWord block) := by
  have known (later : Nat) :
      (List.range later).foldl (fun known _ => known.push (nextWord known)) (words block).toArray =
        ((List.range (16 + later)).map (scheduleWord block)).toArray := by
    -- The induction is on how many of the later words are known.
    induction later with
    | zero =>
      have first : words block = (List.range 16).map (scheduleWord block) := by
        rw [words_eq, whole]
        apply List.map_congr_left
        intro index inside
        rw [scheduleWord, if_pos (List.mem_range.mp inside)]
      rw [List.range_zero, List.foldl_nil, first]
    | succ later ih =>
      rw [List.range_succ, List.foldl_append, ih, List.foldl_cons, List.foldl_nil, nextWord_eq,
        List.push_toArray, ← Nat.add_assoc, List.range_succ, List.map_append, List.map_singleton]
  rw [schedule, known 48]

/-- Each round takes in the word and the constant that stand at its place. -/
theorem rounds_eq (start : State) (block : Bytes) (rounds : Nat) :
    (List.range rounds).foldl
      (fun s index => round s (scheduleWord block index) (roundConstant index)) start =
        workingWords start block rounds := by
  induction rounds with
  | zero => rfl
  | succ rounds ih =>
    rw [List.range_succ, List.foldl_append, ih, List.foldl_cons, List.foldl_nil, workingWords]
    simp (disch := decide) only [round, rotateRight_eq_turned, UInt32.reduceToNat]

/-- A block is taken in as it is specified. -/
theorem compress_eq (state : State) {block : Bytes} (whole : block.length = 64) :
    compress state block = state.add (workingWords state block 64) := by
  simp only [compress, schedule_eq whole, roundConstants_eq, List.zip_map', List.foldl_map,
    rounds_eq]
  rfl

theorem absorbBlocks_succ {blocks : Nat} (state : State) {bytes : Bytes}
    (enough : 64 * (blocks + 1) ≤ bytes.length) :
    absorbBlocks (blocks + 1) state bytes =
      compress (absorbBlocks blocks state bytes) ((bytes.drop (64 * blocks)).take 64) := by
  have front : (bytes.take (64 * blocks)).length = 64 * blocks := by
    rw [List.length_take]
    omega
  have back : (bytes.drop (64 * blocks)).isEmpty = false := by
    rw [List.isEmpty_eq_false_iff, Ne, List.drop_eq_nil_iff]
    omega
  have before := absorbBlocks_append 0 state front (bytes.drop (64 * blocks))
  have after := absorbBlocks_append 1 state front (bytes.drop (64 * blocks))
  rw [List.take_append_drop] at before after
  rw [Nat.add_zero, absorbBlocks] at before
  rw [after, absorbBlocks, back, if_neg Bool.false_ne_true, absorbBlocks, before]

/-- The blocks of a message are chained as it is specified. -/
theorem absorbBlocks_eq {padded : Bytes} {blocks : Nat} (enough : 64 * blocks ≤ padded.length) :
    absorbBlocks blocks initial padded = chainingWords padded blocks := by
  induction blocks with
  | zero => exact initial_eq
  | succ blocks ih =>
    have whole : ((padded.drop (64 * blocks)).take 64).length = 64 := by
      rw [List.length_take, List.length_drop]
      omega
    rw [absorbBlocks_succ initial enough, ih (by omega), compress_eq _ whole]
    rfl

/-! ## The whole message -/

/-- What is put behind a message pads it. -/
theorem isPadded_padding (message : Bytes) :
    IsPadded message (message ++ padding message.length) := by
  refine ⟨(119 - message.length % 64) % 64, bigEndian 8 (message.length * 8), ?_, ?_, ?_, ?_, ?_⟩
  · simp [padding]
  · omega
  · intro fewer whole
    omega
  · exact Stream.length_bigEndian 8 _
  · rw [numberOf_bigEndian, Nat.mul_comm]
    rfl

theorem IsPadded.unique {message first second : Bytes} (padded : IsPadded message first)
    (again : IsPadded message second) : first = second := by
  obtain ⟨zeros, ending, rfl, whole, fewest, length, number⟩ := padded
  obtain ⟨zeros', ending', rfl, whole', fewest', length', number'⟩ := again
  have sameZeros : zeros = zeros' :=
    Nat.le_antisymm (fewest zeros' whole') (fewest' zeros whole)
  have sameEnding : ending = ending' :=
    numberOf_injective (length.trans length'.symm) (number.trans number'.symm)
  rw [sameZeros, sameEnding]

theorem isDigest_digest (message : Bytes) : IsDigest message (digest message) := by
  have spelled (s : State) : s.bytes = s.words.flatMap fun word => bigEndian 4 word.toNat := rfl
  have length (s : State) : s.bytes.length = 32 := by
    simp [spelled, State.words, Stream.length_bigEndian]
  refine ⟨_, isPadded_padding message, length _, ?_⟩
  have read := words_eq (digest message)
  rw [digest, length] at read
  rw [digest, ← read, spelled, words_flatMap_bigEndian, absorbBlocks_eq (Nat.mul_div_le _ 64)]

/-- A message has one digest, and that is the one that is computed. -/
theorem isDigest_iff {message bytes : Bytes} :
    IsDigest message bytes ↔ bytes = digest message := by
  refine ⟨fun isDigest => ?_, fun computed => computed ▸ isDigest_digest message⟩
  obtain ⟨padded, isPadded, length, spelled⟩ := isDigest
  obtain ⟨padded', isPadded', length', spelled'⟩ := isDigest_digest message
  -- Both spell the same words, and bytes that come in fours are made up of their words.
  have sameWords : words bytes = words (digest message) := by
    rw [words_eq, words_eq, length, length', spelled, spelled', isPadded.unique isPadded']
  rw [← flatMap_bigEndian_words (by omega : bytes.length % 4 = 0), sameWords,
    flatMap_bigEndian_words (by omega : (digest message).length % 4 = 0)]

/-! ## Hexadecimal text -/

/-- A text spells bytes in lower-case hexadecimal digits, two for each. -/
def IsHexOf (bytes : Bytes) (text : String) : Prop :=
  text.toList =
    bytes.flatMap fun byte => [(byte.toNat / 16).digitChar, (byte.toNat % 16).digitChar]

theorem hexDigit_eq {value : Nat} (small : value < 16) : hexDigit value = value.digitChar := by
  revert value
  decide

theorem isHexOf_hex (bytes : Bytes) : IsHexOf bytes (hex bytes) := by
  rw [IsHexOf, hex, String.toList_ofList]
  congr 1
  funext byte
  have small := byte.toNat_lt
  rw [hexDigit_eq (by omega), hexDigit_eq (by omega)]

theorem IsHexOf.length_eq {bytes : Bytes} {text : String} (spells : IsHexOf bytes text) :
    text.length = 2 * bytes.length := by
  rw [← String.length_toList, spells, List.length_flatMap]
  simp only [List.length_cons, List.length_nil, List.map_const', List.sum_replicate_nat]
  omega

theorem IsHexOf.digits {bytes : Bytes} {text : String} (spells : IsHexOf bytes text) :
    ∀ digit ∈ text.toList, digit ∈ "0123456789abcdef".toList := by
  have known : ∀ value < 16, value.digitChar ∈ "0123456789abcdef".toList := by
    decide
  intro digit inside
  rw [spells] at inside
  obtain ⟨byte, -, either⟩ := List.mem_flatMap.mp inside
  have small := byte.toNat_lt
  simp only [List.mem_cons, List.not_mem_nil, or_false] at either
  obtain rfl | rfl := either
  · exact known _ (by omega)
  · exact known _ (by omega)

/-- The digest of no bytes at all. -/
example :
    hex (digest []) = "e3b0c44298fc1c149afbf4c8996fb92427ae41e4649b934ca495991b7852b855" := by
  decide +kernel

end ReleasePacker.Sha256
