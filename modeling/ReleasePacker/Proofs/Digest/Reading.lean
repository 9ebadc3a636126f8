import ReleasePacker.Proofs.Digest.Specification

/-!
# Digests and short reads

A read of a file may stop short of the buffer's size at any place. Whatever pieces a content comes
in, the digest of the file is the one digest that SHA-256 specifies for the content, written as
sixty-four hexadecimal digits.
-/

namespace ReleasePacker

/-- A piece that fits into the buffer is delivered by one read. -/
theorem OpenFile.read_of_fits {piece buffer : Bytes} (fits : piece.length ≤ buffer.length)
    (later : List Bytes) :
    read ⟨piece :: later⟩ buffer =
      ⟨piece.length, piece ++ buffer.drop piece.length, ⟨later⟩⟩ := by
  simp only [read, List.take_of_length_le fits, List.drop_of_length_le fits]
  rfl

/-- Pieces that fit into the buffer are delivered as they are. -/
theorem OpenFile.deliveries_eq {pieces : List Bytes} {buffer : Bytes}
    (nonempty : ∀ piece ∈ pieces, piece ≠ [])
    (fit : ∀ piece ∈ pieces, piece.length ≤ buffer.length) :
    deliveries ⟨pieces⟩ buffer = pieces := by
  induction pieces generalizing buffer with
  | nil => rw [deliveries, if_pos (by simp)]
  | cons piece later ih =>
    obtain ⟨some, others⟩ := List.forall_mem_cons.mp nonempty
    obtain ⟨fits, othersFit⟩ := List.forall_mem_cons.mp fit
    have counted : piece.length ≠ 0 := fun none => some (List.eq_nil_of_length_eq_zero none)
    -- The buffer keeps its size, so the later pieces fit into it as well.
    have size : (piece ++ buffer.drop piece.length).length = buffer.length := by
      rw [List.length_append, List.length_drop]
      omega
    have rest : deliveries ⟨later⟩ (piece ++ buffer.drop piece.length) = later :=
      ih others (fun piece inside => size ▸ othersFit piece inside)
    rw [deliveries, read_of_fits fits, if_neg counted, List.take_left' rfl, rest]

namespace Sha256

/-- However the reads of a file split its content, as long as only the last one delivers nothing,
each is taken in once as it was delivered, and the digest is that of the content: the same as if
the content had been taken in at once, and the only one that meets the specification, in
sixty-four lower-case hexadecimal digits. -/
theorem ofFile_in_pieces {content : Bytes} {pieces : List Bytes} (split : pieces.flatten = content)
    (nonempty : ∀ piece ∈ pieces, piece ≠ [])
    (fit : ∀ piece ∈ pieces, piece.length ≤ readSize) :
    OpenFile.deliveries ⟨pieces⟩ (List.replicate readSize 0) = pieces ∧
    ofFile ⟨pieces⟩ = hex (Stream.start.absorb content).finish ∧
    ofFile ⟨pieces⟩ = ofContent content ∧
    (∃ bytes, (∀ other, IsDigest content other ↔ other = bytes) ∧
      IsHexOf bytes (ofFile ⟨pieces⟩)) ∧
    (ofFile ⟨pieces⟩).length = 64 ∧
    ∀ digit ∈ (ofFile ⟨pieces⟩).toList, digit ∈ "0123456789abcdef".toList := by
  have computed : ofFile ⟨pieces⟩ = hex (digest content) := by
    rw [ofFile_eq nonempty, split]
  have atOnce : (Stream.start.absorb content).finish = digest content := by
    rw [← Stream.after_nil, Stream.absorb_after, List.nil_append, Stream.finish_after]
  have spelled : IsHexOf (digest content) (ofFile ⟨pieces⟩) := by
    rw [computed]
    exact isHexOf_hex _
  have length : (digest content).length = 32 := by
    obtain ⟨-, -, length, -⟩ := isDigest_digest content
    exact length
  refine ⟨OpenFile.deliveries_eq nonempty ?_, ?_, ?_, ?_, ?_, spelled.digits⟩
  · rwa [List.length_replicate]
  · rw [computed, atOnce]
  · rw [computed, ofContent_eq]
  · exact ⟨digest content, fun other => isDigest_iff, spelled⟩
  · rw [spelled.length_eq, length]

/-- Twenty thousand bytes of three kinds. -/
def mixedContent : Bytes :=
  List.replicate 8192 0x61 ++ (List.replicate 64 0x62 ++ List.replicate 11744 0x63)

/-- The same bytes in reads that stop short of the buffer and of blocks, so that the buffer still
has bytes of the first read behind those of the others. -/
def shortReads : List Bytes :=
  [List.replicate 8192 0x61, List.replicate 1 0x62, List.replicate 63 0x62,
    List.replicate 8191 0x63, List.replicate 3553 0x63]

theorem ofFile_in_pieces_short :
    shortReads.flatten = mixedContent ∧ (∀ piece ∈ shortReads, piece ≠ []) ∧
    (∀ piece ∈ shortReads, piece.length ≤ readSize) ∧
    OpenFile.deliveries ⟨shortReads⟩ (List.replicate readSize 0) = shortReads ∧
    ofFile ⟨shortReads⟩ = ofContent mixedContent ∧
    (∃ bytes, (∀ other, IsDigest mixedContent other ↔ other = bytes) ∧
      IsHexOf bytes (ofFile ⟨shortReads⟩)) ∧
    (ofFile ⟨shortReads⟩).length = 64 := by
  have joined (first second : Nat) (byte : UInt8) (rest : Bytes) :
      List.replicate first byte ++ (List.replicate second byte ++ rest) =
        List.replicate (first + second) byte ++ rest := by
    rw [← List.append_assoc, List.replicate_append_replicate]
  have split : shortReads.flatten = mixedContent := by
    simp only [shortReads, mixedContent, List.flatten_cons, List.flatten_nil, List.append_nil,
      joined, List.replicate_append_replicate, Nat.reduceAdd]
  have nonempty : ∀ piece ∈ shortReads, piece ≠ [] := by
    simp [shortReads, -List.reduceReplicate]
  have fit : ∀ piece ∈ shortReads, piece.length ≤ readSize := by
    simp [shortReads, readSize, -List.reduceReplicate]
  obtain ⟨delivered, -, same, spelled, length, -⟩ := ofFile_in_pieces split nonempty fit
  exact ⟨split, nonempty, fit, delivered, same, spelled, length⟩

end Sha256
end ReleasePacker
