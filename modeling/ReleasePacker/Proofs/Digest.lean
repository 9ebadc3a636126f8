import Mathlib.Tactic.Common
import ReleasePacker.Digest.FileDigest

/-!
# Digests taken piece by piece

A digest under way has taken in all whole blocks and holds the rest, and this does not depend on
the pieces in which the message was read. So in the end it is the digest of the whole message.

The same goes for a file that is read through a buffer: what the reads deliver makes up its
content, whatever earlier reads have left in the buffer.
-/

namespace ReleasePacker
namespace Sha256

/-- Blocks are taken in one after another. -/
theorem absorbBlocks_append (more : Nat) (state : State) {front : Bytes} {blocks : Nat}
    (whole : front.length = 64 * blocks) (back : Bytes) :
    absorbBlocks (blocks + more) state (front ++ back) =
      absorbBlocks more (absorbBlocks blocks state front) back := by
  induction blocks generalizing state front with
  | zero =>
    obtain rfl : front = [] := List.eq_nil_of_length_eq_zero (by omega)
    rw [Nat.zero_add, absorbBlocks, List.nil_append]
  | succ blocks ih =>
    have full : 64 ≤ front.length := by omega
    have nonempty : front.isEmpty = false := by
      rw [List.isEmpty_eq_false_iff]
      rintro rfl
      simp at full
    have joined : (front ++ back).isEmpty = false := by
      rw [List.isEmpty_eq_false_iff] at nonempty ⊢
      exact List.append_ne_nil_of_left_ne_nil nonempty back
    have rest : (front.drop 64).length = 64 * blocks := by
      rw [List.length_drop]
      omega
    rw [Nat.add_right_comm, absorbBlocks, joined, absorbBlocks, nonempty, if_neg Bool.false_ne_true,
      if_neg Bool.false_ne_true, List.take_append_of_le_length full,
      List.drop_append_of_le_length full]
    exact ih _ rest

theorem absorbBlocks_one (state : State) {block : Bytes} (full : block.length = 64) :
    absorbBlocks 1 state block = compress state block := by
  have nonempty : block.isEmpty = false := by
    rw [List.isEmpty_eq_false_iff]
    rintro rfl
    simp at full
  rw [absorbBlocks, nonempty, if_neg Bool.false_ne_true, absorbBlocks,
    List.take_of_length_le (by omega)]

namespace Stream

/-- How much of a message makes up whole blocks. -/
def wholeLength (message : Bytes) : Nat := 64 * (message.length / 64)

/-- The digest under way after a message: the whole blocks are taken in, the rest is in hand. -/
def after (message : Bytes) : Stream where
  state := absorbBlocks (message.length / 64) initial (message.take (wholeLength message))
  recent := (message.drop (wholeLength message)).reverse
  filled := message.length % 64
  length := message.length

/-- Reading one more byte. -/
theorem push_after (message : Bytes) (byte : UInt8) :
    (after message).push byte = after (message ++ [byte]) := by
  have length : (message ++ [byte]).length = message.length + 1 := List.length_append
  have within : wholeLength message ≤ message.length := by
    rw [wholeLength]
    omega
  have taken : (message.take (wholeLength message)).length = 64 * (message.length / 64) := by
    rw [List.length_take_of_le within, wholeLength]
  have split : message.take (wholeLength message) ++
      (message.drop (wholeLength message) ++ [byte]) = message ++ [byte] := by
    rw [← List.append_assoc, List.take_append_drop]
  rw [push]
  by_cases last : message.length % 64 + 1 = 64
  -- The byte completes a block, so the whole message is made up of blocks.
  · have blocks : (message.length + 1) / 64 = message.length / 64 + 1 := by omega
    have whole : wholeLength (message ++ [byte]) = (message ++ [byte]).length := by
      rw [wholeLength, length]
      omega
    have all : (message ++ [byte]).take (wholeLength (message ++ [byte])) = message ++ [byte] := by
      rw [whole, List.take_length]
    have nothing : (message ++ [byte]).drop (wholeLength (message ++ [byte])) = [] := by
      rw [whole, List.drop_length]
    have block : (message.drop (wholeLength message) ++ [byte]).length = 64 := by
      rw [List.length_append, List.length_drop, wholeLength, List.length_singleton]
      omega
    have compressed : absorbBlocks (message.length / 64 + 1) initial (message ++ [byte]) =
        compress (after message).state (message.drop (wholeLength message) ++ [byte]) := by
      rw [← split, absorbBlocks_append 1 initial taken, absorbBlocks_one _ block]
      rfl
    have reversed : (byte :: (after message).recent).reverse =
        message.drop (wholeLength message) ++ [byte] := by
      rw [after, List.reverse_cons, List.reverse_reverse]
    rw [if_pos (show (after message).filled + 1 = 64 from last), reversed, ← compressed]
    simp only [after, all, nothing, List.reverse_nil, length, blocks, mk.injEq, true_and, and_true]
    omega
  -- There is room for the byte, so the blocks are the same ones.
  · have blocks : (message.length + 1) / 64 = message.length / 64 := by omega
    have whole : wholeLength (message ++ [byte]) = wholeLength message := by
      rw [wholeLength, wholeLength, length, blocks]
    have recent : ((message ++ [byte]).drop (wholeLength message)).reverse =
        byte :: (message.drop (wholeLength message)).reverse := by
      rw [List.drop_append_of_le_length within, List.reverse_append, List.reverse_singleton,
        List.singleton_append]
    rw [if_neg (show (after message).filled + 1 ≠ 64 from last)]
    simp only [after, whole, recent, length, blocks, List.take_append_of_le_length within,
      mk.injEq, true_and, and_true]
    omega

/-- What has been read is all that matters, not the pieces. -/
theorem absorb_after (message piece : Bytes) :
    (after message).absorb piece = after (message ++ piece) := by
  induction piece generalizing message with
  | nil => rw [absorb, List.foldl_nil, List.append_nil]
  | cons byte rest ih =>
    have next := ih (message ++ [byte])
    rw [absorb] at next ⊢
    rw [List.foldl_cons, push_after, next, List.append_assoc, List.singleton_append]

theorem after_nil : after [] = start := rfl

theorem foldl_absorb_start (pieces : List Bytes) :
    pieces.foldl absorb start = after pieces.flatten := by
  have general (message : Bytes) :
      pieces.foldl absorb (after message) = after (message ++ pieces.flatten) := by
    induction pieces generalizing message with
    | nil => rw [List.foldl_nil, List.flatten_nil, List.append_nil]
    | cons piece rest ih =>
      rw [List.foldl_cons, absorb_after, ih, List.flatten_cons, List.append_assoc]
  rw [← after_nil, general, List.nil_append]

theorem length_bigEndian (count value : Nat) : (bigEndian count value).length = count := by
  induction count generalizing value with
  | zero => rfl
  | succ count ih => rw [bigEndian, List.length_append, ih, List.length_singleton]

/-- A padded message is made up of whole blocks. -/
theorem length_padded (message : Bytes) :
    (message ++ padding message.length).length % 64 = 0 := by
  simp only [padding, List.cons_append, List.length_append, List.length_cons, List.length_replicate,
    length_bigEndian]
  omega

theorem finish_after (message : Bytes) : (after message).finish = digest message := by
  have whole : wholeLength (message ++ padding message.length) =
      (message ++ padding message.length).length := by
    rw [wholeLength]
    have padded := length_padded message
    omega
  have absorbed := absorb_after message (padding message.length)
  rw [absorb] at absorbed
  rw [finish, digest]
  change ((padding message.length).foldl push (after message)).state.bytes = _
  rw [absorbed]
  dsimp only [after]
  rw [whole, List.take_length]

end Stream

end Sha256

/-! ## Reading a file -/

namespace OpenFile

/-- Only at the end of the file a read finds nothing ready. -/
def EndsLast (file : OpenFile) : Prop := ∀ piece ∈ file.pieces, piece ≠ []

/-- What the reads of a file deliver until one delivers nothing. -/
def deliveries (file : OpenFile) (buffer : Bytes) : List Bytes :=
  let delivery := file.read buffer
  if delivery.count = 0 then []
  else delivery.buffer.take delivery.count :: delivery.rest.deliveries delivery.buffer
termination_by file.remaining
decreasing_by
  have delivered : (file.read buffer).count ≠ 0 := ‹_›
  have taken := file.count_add_remaining buffer
  omega

variable (file : OpenFile) (buffer : Bytes)

@[simp]
theorem read_nil : read ⟨[]⟩ buffer = ⟨0, buffer, ⟨[]⟩⟩ := rfl

/-- The buffer keeps its size. -/
theorem length_buffer_read : (file.read buffer).buffer.length = buffer.length := by
  obtain ⟨pieces⟩ := file
  cases pieces with
  | nil => rfl
  | cons piece later =>
    simp only [read, List.length_append, List.length_take, List.length_drop]
    omega

/-- What a read delivers and what is left after it make up what was there before it. -/
theorem delivered_append_rest :
    (file.read buffer).buffer.take (file.read buffer).count ++
      (file.read buffer).rest.pieces.flatten = file.pieces.flatten := by
  obtain ⟨pieces⟩ := file
  cases pieces with
  | nil => simp
  | cons piece later =>
    simp only [read, List.take_left', List.flatten_cons]
    split
    next all =>
      have short : piece.length ≤ buffer.length := by simpa using all
      rw [List.take_of_length_le short]
    next more => rw [List.flatten_cons, ← List.append_assoc, List.take_append_drop]

variable {file buffer}

theorem EndsLast.rest (endsLast : file.EndsLast) : (file.read buffer).rest.EndsLast := by
  obtain ⟨pieces⟩ := file
  cases pieces with
  | nil => exact endsLast
  | cons piece later =>
    obtain ⟨-, others⟩ := List.forall_mem_cons.mp endsLast
    simp only [read]
    split
    next all => exact others
    next more =>
      refine List.forall_mem_cons.mpr ⟨fun nothing => more ?_, others⟩
      rw [nothing, List.isEmpty_nil]

/-- A read that delivers nothing finds the file at its end. -/
theorem EndsLast.eq_nil_of_count (endsLast : file.EndsLast) (room : buffer ≠ [])
    (nothing : (file.read buffer).count = 0) : file.pieces = [] := by
  obtain ⟨pieces⟩ := file
  cases pieces with
  | nil => rfl
  | cons piece later =>
    have visible : piece ≠ [] := endsLast piece List.mem_cons_self
    simp [read, visible, room] at nothing

/-- The reads deliver the file. -/
theorem flatten_deliveries (endsLast : file.EndsLast) (room : buffer ≠ []) :
    (file.deliveries buffer).flatten = file.pieces.flatten := by
  -- The induction follows the reads; the buffer never gets smaller on the way.
  induction file, buffer using deliveries.induct with
  | case1 file buffer delivery nothing =>
    rw [deliveries, if_pos nothing, endsLast.eq_nil_of_count room nothing]
  | case2 file buffer delivery some ih =>
    have still : delivery.buffer ≠ [] := by
      intro empty
      have same := length_buffer_read file buffer
      rw [show (file.read buffer).buffer = [] from empty] at same
      exact room (List.eq_nil_of_length_eq_zero same.symm)
    rw [deliveries, if_neg some, List.flatten_cons, ih endsLast.rest still, delivered_append_rest]

end OpenFile

namespace Sha256

/-- A file is taken in as its reads deliver it. What the buffer holds behind a delivery is not
taken in. -/
theorem Stream.absorbFile_eq (stream : Stream) (buffer : Bytes) (file : OpenFile) :
    stream.absorbFile buffer file = (file.deliveries buffer).foldl absorb stream := by
  induction stream, buffer, file using absorbFile.induct with
  | case1 stream buffer file delivery nothing =>
    rw [absorbFile, OpenFile.deliveries, if_pos nothing, if_pos nothing, List.foldl_nil]
  | case2 stream buffer file delivery some ih =>
    rw [absorbFile, OpenFile.deliveries, if_neg some, if_neg some, List.foldl_cons, ih]

/-- The digest of a file is that of its content. -/
theorem ofFile_eq {file : OpenFile} (endsLast : file.EndsLast) :
    ofFile file = hex (digest file.pieces.flatten) := by
  have room : List.replicate readSize (0 : UInt8) ≠ [] := by
    rw [Ne, List.replicate_eq_nil_iff]
    decide
  rw [ofFile, Stream.absorbFile_eq, Stream.foldl_absorb_start,
    OpenFile.flatten_deliveries endsLast room, Stream.finish_after]

theorem ofContent_eq (content : Bytes) : ofContent content = hex (digest content) := by
  by_cases empty : content = []
  · have ended (buffer : Bytes) : (OpenFile.read ⟨[[]]⟩ buffer).count = 0 := by
      simp [OpenFile.read]
    rw [empty, ofContent, ofFile, Stream.absorbFile, if_pos (ended _), ← Stream.after_nil,
      Stream.finish_after]
  · have endsLast : OpenFile.EndsLast ⟨[content]⟩ := by
      intro piece inside
      rwa [List.mem_singleton.mp inside]
    rw [ofContent, ofFile_eq endsLast, List.flatten_singleton]

end Sha256
end ReleasePacker
