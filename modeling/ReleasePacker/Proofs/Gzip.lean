import Mathlib.Tactic.Common
import ReleasePacker.Gzip.Member

/-!
# Unpacking what was packed

What is packed is stored in blocks, each of which states its length. So the reader goes through the
same blocks one after another, and finds the trailer of what it has decoded after the last of them.
-/

namespace ReleasePacker

namespace Inflate

/-- A number that fits into a length field is given by its two bytes, the low one first. -/
theorem twoBytes_toNat {value : Nat} (fits : value ≤ maxStored) :
    value.toUInt8.toNat + 256 * (value / 256).toUInt8.toNat = value := by
  rw [maxStored] at fits
  rw [Nat.toUInt8, UInt8.toNat_ofNat', UInt8.toNat_ofNat']
  omega

/-- A stored block is read back, and what follows it is left. -/
theorem readBlock_storedBlock (out : Array UInt8) (final : Bool) {bytes : Bytes}
    (short : bytes.length ≤ maxStored) (rest : Bytes) :
    readBlock out (.ofBytes (storedBlock final bytes ++ rest)) =
      (final, out ++ bytes.toArray, .ok (.ofBytes rest)) := by
  have first : (BitReader.ofBytes (storedBlock final bytes ++ rest)).number 1 =
      some (if final then 1 else 0, ⟨0, 7, (storedBlock final bytes ++ rest).tail⟩) := by
    cases final <;> rfl
  have kind (rest : Bytes) : (⟨0, 7, rest⟩ : BitReader).number 2 = some (0, ⟨0, 5, rest⟩) := by
    simp [BitReader.number, BitReader.bit]
  -- The second length field holds the complement of the first one.
  have length := twoBytes_toNat short
  have turned : bytes.length + (0xFFFF - bytes.length).toUInt8.toNat +
      256 * ((0xFFFF - bytes.length) / 256).toUInt8.toNat = 0xFFFF := by
    have complement := twoBytes_toNat (Nat.sub_le 0xFFFF bytes.length)
    rw [maxStored] at short
    omega
  rw [readBlock, first]
  dsimp only
  rw [kind]
  dsimp only
  rw [if_pos rfl, readStored, BitReader.aligned, storedBlock]
  simp only [List.cons_append, List.tail_cons, length, turned, ne_eq, not_true, if_false]
  rw [List.take_left, List.drop_left, if_neg (Nat.lt_irrefl _)]
  cases final <;> rfl

theorem length_le_storeBlocks (fuel : Nat) (bytes : Bytes) :
    bytes.length ≤ (storeBlocks fuel bytes).length := by
  have single (final : Bool) (piece : Bytes) :
      piece.length + 5 = (storedBlock final piece).length := rfl
  induction fuel generalizing bytes with
  | zero =>
    rw [storeBlocks, ← single]
    omega
  | succ fuel ih =>
    rw [storeBlocks]
    split
    · rw [← single]
      omega
    · have tail := ih (bytes.drop maxStored)
      rw [List.length_drop] at tail
      rw [List.length_append, ← single, List.length_take]
      omega

/-- The blocks are read in the order in which they were stored. -/
theorem readBlocks_storeBlocks {pieces fuel : Nat} {bytes : Bytes}
    (short : bytes.length ≤ (pieces + 1) * maxStored) (enough : pieces < fuel) (out : Array UInt8)
    (rest : Bytes) :
    readBlocks fuel out (.ofBytes (storeBlocks pieces bytes ++ rest)) =
      (out ++ bytes.toArray, .finished rest) := by
  induction pieces generalizing fuel out bytes with
  | zero =>
    obtain ⟨more, rfl⟩ := Nat.exists_eq_add_of_lt enough
    rw [storeBlocks, readBlocks, readBlock_storedBlock out true (by omega)]
    rfl
  | succ pieces ih =>
    obtain ⟨more, rfl⟩ := Nat.exists_eq_add_of_lt enough
    rw [storeBlocks]
    split
    next whole =>
      rw [readBlocks, readBlock_storedBlock out true whole]
      rfl
    next longer =>
      -- A full block that is not the last one, and then as many blocks as before.
      have part : (bytes.take maxStored).length ≤ maxStored := List.length_take_le _ _
      have others : (bytes.drop maxStored).length ≤ (pieces + 1) * maxStored := by
        rw [List.length_drop]
        rw [Nat.succ_mul] at short
        omega
      rw [List.append_assoc, readBlocks, readBlock_storedBlock out false part]
      dsimp only
      rw [ih others (by omega), Array.append_assoc, List.append_toArray (bytes.take maxStored),
        List.take_append_drop]

/-- A stream of stored blocks is decoded, and what follows it is left. -/
theorem inflate_store (bytes rest : Bytes) :
    inflate (store bytes ++ rest) = (bytes.toArray, .finished rest) := by
  have length := length_le_storeBlocks (bytes.length / maxStored) bytes
  rw [inflate, store]
  rw [readBlocks_storeBlocks, Array.empty_append]
  · rw [maxStored]
    omega
  · rw [List.length_append]
    have fewer := Nat.div_le_self bytes.length maxStored
    omega

end Inflate

/-- Packed content is unpacked whole, and its end is a clean one. -/
theorem Gzip.unpack_pack (content : Bytes) : unpack (pack content) = ⟨content, true⟩ := by
  have header : skipHeader (pack content) = some (Inflate.store content ++ trailer content) := by
    rw [pack, List.append_assoc]
    rfl
  have whole : (trailer content).take 8 = trailer content := rfl
  rw [unpack, header]
  dsimp only
  rw [Inflate.inflate_store]
  dsimp only
  rw [whole]
  simp

end ReleasePacker
