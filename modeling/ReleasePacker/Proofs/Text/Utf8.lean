import Mathlib.Tactic.Common
import ReleasePacker.Text.Utf8

/-!
# Reading back what was encoded

The bytes of a character bring the scanner from one character boundary to the next and are found as
that character. So text that was encoded is read back without a gap, whatever it is.
-/

namespace ReleasePacker.Utf8

/-! ## The first byte of a character -/

theorem firstByte_two : ∀ high < 32, 2 ≤ high →
    firstByte (0xC0 + high) = some (.inr ⟨high, 1, 0x80, 0xBF⟩) := by
  decide

/-- After the first of three bytes the second one is bounded where a shorter form or a surrogate
would begin. -/
theorem firstByte_three : ∀ high < 16, firstByte (0xE0 + high) =
    some (.inr ⟨high, 2, if high = 0 then 0xA0 else 0x80, if high = 13 then 0x9F else 0xBF⟩) := by
  decide

theorem firstByte_four : ∀ high < 5, firstByte (0xF0 + high) =
    some (.inr ⟨high, 3, if high = 0 then 0x90 else 0x80, if high = 4 then 0x8F else 0xBF⟩) := by
  decide

/-! ## The bytes that follow -/

theorem toNat_toUInt8 {byte : Nat} (small : byte < 256) : byte.toUInt8.toNat = byte := by
  rw [Nat.toUInt8, UInt8.toNat_ofNat', Nat.mod_eq_of_lt small]

/-- A byte within the bounds goes on with the unfinished character. -/
theorem feed_more (found : List (Option Char)) {code owed low high byte : Nat}
    (lower : low ≤ byte) (upper : byte ≤ high) (small : byte < 256) (more : 1 < owed) :
    Scanner.feed ⟨found, some ⟨code, owed, low, high⟩⟩ byte.toUInt8 =
      ⟨found, some ⟨code * 64 + (byte - 0x80), owed - 1, 0x80, 0xBF⟩⟩ := by
  rw [Scanner.feed, toNat_toUInt8 small]
  dsimp only
  rw [if_pos ⟨lower, upper⟩, if_neg (by omega)]

/-- The last byte completes it. -/
theorem feed_last (found : List (Option Char)) {code low high byte : Nat}
    (lower : low ≤ byte) (upper : byte ≤ high) (small : byte < 256) :
    Scanner.feed ⟨found, some ⟨code, 1, low, high⟩⟩ byte.toUInt8 =
      ⟨some (Char.ofNat (code * 64 + (byte - 0x80))) :: found, none⟩ := by
  rw [Scanner.feed, toNat_toUInt8 small]
  dsimp only
  rw [if_pos ⟨lower, upper⟩, if_pos (Nat.le_refl 1)]

theorem feed_first (found : List (Option Char)) {byte : Nat} (small : byte < 256) :
    Scanner.feed ⟨found, none⟩ byte.toUInt8 = .restart found byte := by
  rw [Scanner.feed, toNat_toUInt8 small]

/-- A code point is no surrogate and within the range. -/
theorem toNat_valid (c : Char) : c.toNat < 0xD800 ∨ 0xDFFF < c.toNat ∧ c.toNat < 0x110000 :=
  c.valid

/-- The scanner finds a character in its bytes. -/
theorem feed_encodeChar (found : List (Option Char)) (c : Char) :
    (encodeChar c).foldl Scanner.feed ⟨found, none⟩ = ⟨some c :: found, none⟩ := by
  have valid := toNat_valid c
  have same : Char.ofNat c.toNat = c := Char.ofNat_toNat c
  -- One case for each length: the bytes are fed one by one and make up the code point again.
  rw [encodeChar]
  generalize c.toNat = n at valid same
  split
  next one =>
    rw [List.foldl_cons, feed_first found (by omega), Scanner.restart, firstByte, if_pos one, same]
    rfl
  split
  next two =>
    have high := firstByte_two (n / 64) (by omega) (by omega)
    have code : n / 64 * 64 + (0x80 + n % 64 - 0x80) = n := by omega
    rw [List.foldl_cons, feed_first found (by omega), Scanner.restart, high, List.foldl_cons]
    dsimp only
    rw [feed_last found (by omega) (by omega) (by omega), code, same]
    rfl
  split
  next three =>
    -- The bounds on the second byte hold as no surrogate is encoded.
    have high := firstByte_three (n / 4096) (by omega)
    have code : (n / 4096 * 64 + (0x80 + n / 64 % 64 - 0x80)) * 64 +
        (0x80 + n % 64 - 0x80) = n := by
      omega
    rw [List.foldl_cons, feed_first found (by omega), Scanner.restart, high, List.foldl_cons]
    dsimp only
    rw [feed_more found (by split <;> omega) (by split <;> omega) (by omega) (by omega),
      List.foldl_cons, feed_last found (by omega) (by omega) (by omega), code, same]
    rfl
  next four =>
    have high := firstByte_four (n / 262144) (by omega)
    have code : ((n / 262144 * 64 + (0x80 + n / 4096 % 64 - 0x80)) * 64 +
        (0x80 + n / 64 % 64 - 0x80)) * 64 + (0x80 + n % 64 - 0x80) = n := by
      omega
    rw [List.foldl_cons, feed_first found (by omega), Scanner.restart, high, List.foldl_cons]
    dsimp only
    rw [feed_more found (by split <;> omega) (by split <;> omega) (by omega) (by omega),
      List.foldl_cons, feed_more found (by omega) (by omega) (by omega) (by omega),
      List.foldl_cons, feed_last found (by omega) (by omega) (by omega), code, same]
    rfl

/-! ## Whole texts -/

/-- What is scanned in encoded text is its characters. -/
theorem scan_flatMap_encodeChar (chars : List Char) :
    scan (chars.flatMap encodeChar) = chars.map some := by
  have scanned (found : List (Option Char)) :
      (chars.flatMap encodeChar).foldl Scanner.feed ⟨found, none⟩ =
        ⟨(chars.map some).reverse ++ found, none⟩ := by
    induction chars generalizing found with
    | nil => rfl
    | cons c rest ih =>
      rw [List.flatMap_cons, List.foldl_append, feed_encodeChar, ih]
      simp
  rw [scan, Scanner.start, scanned, Scanner.finish, List.append_nil, List.reverse_reverse]

@[simp] theorem decode?_encode (text : String) : decode? (encode text) = some text := by
  rw [decode?, encode, scan_flatMap_encodeChar]
  simp [List.filterMap_map, Function.comp_def]

@[simp] theorem decodeLossy_encode (text : String) : decodeLossy (encode text) = text := by
  rw [decodeLossy, decodeLossyChars, encode, scan_flatMap_encodeChar]
  simp [Function.comp_def]

theorem zero_notMem_encodeChar {c : Char} (other : c ≠ '\x00') : 0 ∉ encodeChar c := by
  have positive : c.toNat ≠ 0 := by
    intro zero
    exact other (by rw [← Char.ofNat_toNat c, zero])
  have nonzero {byte : Nat} (small : byte < 256) (some : byte ≠ 0) :
      (0 : UInt8) ≠ byte.toUInt8 := by
    intro same
    have values := congrArg UInt8.toNat same
    rw [toNat_toUInt8 small] at values
    exact some values.symm
  have valid := toNat_valid c
  rw [encodeChar]
  generalize c.toNat = n at valid positive
  split
  next =>
    rw [List.mem_singleton]
    exact nonzero (by omega) positive
  split
  next =>
    simp only [List.mem_cons, List.not_mem_nil, or_false, not_or]
    exact ⟨nonzero (by omega) (by omega), nonzero (by omega) (by omega)⟩
  split
  next =>
    simp only [List.mem_cons, List.not_mem_nil, or_false, not_or]
    exact ⟨nonzero (by omega) (by omega), nonzero (by omega) (by omega),
      nonzero (by omega) (by omega)⟩
  next =>
    simp only [List.mem_cons, List.not_mem_nil, or_false, not_or]
    exact ⟨nonzero (by omega) (by omega), nonzero (by omega) (by omega),
      nonzero (by omega) (by omega), nonzero (by omega) (by omega)⟩

/-- Only the zero character has a zero byte. -/
theorem zero_notMem_encode {text : String} (absent : '\x00' ∉ text.toList) : 0 ∉ encode text := by
  rw [encode, List.mem_flatMap]
  rintro ⟨c, inside, zero⟩
  refine zero_notMem_encodeChar ?_ zero
  rintro rfl
  exact absent inside

end ReleasePacker.Utf8
