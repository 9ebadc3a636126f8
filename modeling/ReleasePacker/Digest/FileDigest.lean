import ReleasePacker.Digest.Sha256

/-!
# Digests of files

A file is read through a buffer of fixed size. A read may deliver fewer bytes than the buffer
holds; behind them the buffer still has what earlier reads left there, which is not part of the
file.
-/

namespace ReleasePacker

/-- A file as further reads will deliver it: each piece is what is ready for one of them. -/
structure OpenFile where
  pieces : List Bytes
  deriving DecidableEq, Repr

/-- What comes of a read. -/
structure Delivery where
  /-- How many bytes have been delivered; none means the end of the file. -/
  count : Nat
  /-- The buffer, with the bytes delivered at its front. -/
  buffer : Bytes
  /-- The file from now on. -/
  rest : OpenFile
  deriving DecidableEq, Repr

namespace OpenFile

/-- Reads into a buffer. It gets as much of the piece that is ready as it holds, and behind that
it stays as it was. What it does not hold of the piece is ready for the next read. -/
def read (file : OpenFile) (buffer : Bytes) : Delivery :=
  match file.pieces with
  | [] => ⟨0, buffer, file⟩
  | piece :: later =>
    let front := piece.take buffer.length
    let left := piece.drop buffer.length
    { count := front.length
      buffer := front ++ buffer.drop front.length
      rest := ⟨if left.isEmpty then later else left :: later⟩ }

/-- How many bytes are still to be read. -/
def remaining (file : OpenFile) : Nat := file.pieces.flatten.length

/-- A read takes off what it delivers. -/
theorem count_add_remaining (file : OpenFile) (buffer : Bytes) :
    (file.read buffer).count + (file.read buffer).rest.remaining = file.remaining := by
  obtain ⟨pieces⟩ := file
  cases pieces with
  | nil => simp [read]
  | cons piece later =>
    simp only [read, remaining, List.length_take, List.length_flatten, List.map_cons, List.sum_cons]
    split
    next all =>
      have short : piece.length ≤ buffer.length := by simpa using all
      omega
    next more =>
      simp only [List.map_cons, List.sum_cons, List.length_drop]
      omega

end OpenFile

namespace Sha256

/-- The size of the buffer through which files are read. -/
def readSize : Nat := 8192

/-- Takes in a file, read by read, until a read delivers nothing. -/
def Stream.absorbFile (stream : Stream) (buffer : Bytes) (file : OpenFile) : Stream :=
  let delivery := file.read buffer
  if delivery.count = 0 then stream
  else
    absorbFile (stream.absorb (delivery.buffer.take delivery.count)) delivery.buffer delivery.rest
termination_by file.remaining
decreasing_by
  have delivered : (file.read buffer).count ≠ 0 := ‹_›
  have taken := file.count_add_remaining buffer
  omega

/-- The digest of a file as text. -/
def ofFile (file : OpenFile) : String :=
  hex (Stream.start.absorbFile (List.replicate readSize 0) file).finish

/-- The digest of a file's content as text; all of it is ready at once. -/
def ofContent (content : Bytes) : String := ofFile ⟨[content]⟩

end Sha256
end ReleasePacker
