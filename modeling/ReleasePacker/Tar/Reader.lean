import ReleasePacker.Tar.Header
import ReleasePacker.Gzip.Member
import ReleasePacker.Path

/-!
# Reading tape archives

The members of an archive are found one after another: a header, the data, and filling up to a
whole block. Members of some types only describe the next one. A fault ends the list, and so
does a block of zeros or a clean end of the bytes.
-/

namespace ReleasePacker.Tar

/-- A member as a reader meets it. -/
structure Entry where
  /-- The name as it stands in the archive. -/
  name : Bytes
  /-- The letter that tells what sort of member it is. -/
  flag : UInt8
  /-- The layout of its header. -/
  layout : Layout
  /-- The permission bits, if the header states any. -/
  mode : Option Nat
  /-- How many bytes of data the member has. -/
  size : Nat
  /-- The data that can be read; less than `size` bytes if the archive is damaged. -/
  data : Bytes
  deriving Repr

namespace Entry

/-- The name as a path. -/
def path (entry : Entry) : Path := ⟨Utf8.decodeLossy entry.name⟩

/-- Whether the member is a regular file. -/
def isFile (entry : Entry) : Bool := entry.flag = 0x30 || entry.flag = 0

/-- The last piece of the name that says more than to stay. -/
def lastPiece (entry : Entry) : Bytes :=
  (((Text.splitAt 0x2F entry.name).filter fun piece =>
    piece ≠ [] && piece ≠ [0x2E]).getLast?).getD []

/-- Whether the name ends in the given file name. -/
def isNamed (entry : Entry) (name : String) : Bool :=
  entry.path.fileName.isSome && entry.lastPiece = Utf8.encode name

/-- Whether all data can be read. -/
def isWhole (entry : Entry) : Bool := entry.data.length = entry.size

/-- Whether the name ends with a separator. -/
def endsInSeparator (entry : Entry) : Bool := entry.name.getLast? = some 0x2F

end Entry

/-- The members of an archive, as far as they can be read. -/
structure Contents where
  entries : List Entry
  /-- Whether the list ends properly. -/
  clean : Bool
  deriving Repr

/-- What members have said about the next one. -/
structure Announced where
  longName : Option Bytes := none
  longLink : Option Bytes := none
  records : Option Bytes := none

namespace Announced

/-- Whether nothing has been said. -/
def isEmpty (announced : Announced) : Bool :=
  announced.longName.isNone && announced.longLink.isNone && announced.records.isNone

/-- The name of a member with the given header. -/
def nameOf (announced : Announced) (block : Bytes) : Bytes :=
  match announced.longName with
  | some name => if name.getLast? = some 0 then name.dropLast else name
  | none =>
    match announced.records.bind fun bytes => recordValue? bytes "path" with
    | some name => name
    | none => headerName block

end Announced

/-- The size of data filled up to whole blocks. -/
def filledSize (size : Nat) : Nat := (size + 511) / 512 * 512

/-- How a run of sparse pieces has gone so far. -/
structure Sparse where
  /-- Where the last piece ends in the whole file. -/
  position : Nat
  /-- How much of the stored data the pieces leave over. -/
  left : Nat

/-- Takes one piece of a sparse file: where it stands and how long it is. -/
def Sparse.add (size : Nat) (sparse : Sparse) (piece : Bytes) : Option Sparse :=
  if piece.headD 0 = 0 || (piece.drop 12).headD 0 = 0 then some sparse
  else do
    let offset ← octal? (piece.take 12)
    let length ← octal? (piece.drop 12)
    if length ≠ 0 && (size - sparse.left) % 512 ≠ 0 then none
    else if offset < sparse.position then none
    else if maxNumber < offset + length || sparse.left < length then none
    else some ⟨offset + length, sparse.left - length⟩

/-- The pieces in a table of a sparse file. -/
def sparsePieces (count : Nat) (table : Bytes) : List Bytes :=
  (List.range count).map fun index => field table (24 * index) 24

/-- Reads the tables that go on in further blocks, at most `fuel` of them; the answer counts
them. -/
def sparseTables (size : Nat) :
    (fuel : Nat) → Sparse → Bytes → Option (Sparse × Nat × Bytes)
  | 0, _, _ => none
  | fuel + 1, sparse, bytes =>
    if bytes.length < blockSize then none
    else do
      let block := bytes.take blockSize
      let sparse ← (sparsePieces 21 block).foldlM (Sparse.add size) sparse
      let rest := bytes.drop blockSize
      if (block.drop 504).headD 0 = 1 then
        let (sparse, tables, rest) ← sparseTables size fuel sparse rest
        return (sparse, tables + 1, rest)
      else return (sparse, 1, rest)

/-- Checks the header of a sparse file and answers how many further blocks belong to it. -/
def readSparse (block : Bytes) (size : Nat) (rest : Bytes) : Option (Nat × Bytes) := do
  if layout block ≠ .gnu then none
  let sparse ← (sparsePieces 4 (block.drop 386)).foldlM (Sparse.add size) ⟨0, size⟩
  let (sparse, tables, rest) ←
    if (block.drop 482).headD 0 = 1 then sparseTables size (rest.length / blockSize + 1) sparse rest
    else some (sparse, 0, rest)
  let real ← octal? (field block 483 12)
  if sparse.position ≠ real || sparse.left ≠ 0 then none
  return (tables, rest)

/-- What stands at a place where a header is due. -/
inductive Header where
  /-- A header, the size of its data, and what follows the header. -/
  | block (block : Bytes) (size : Nat) (rest : Bytes)
  /-- Nothing more. -/
  | done
  | fault

/-- Reads a header. `position` is how far into the archive it stands. -/
def readHeader (clean : Bool) (announced : Announced) (position : Nat) (bytes : Bytes) : Header :=
  if bytes.isEmpty then if clean then .done else .fault
  else if bytes.length < blockSize then .fault
  else
    let block := bytes.take blockSize
    if block.all (· = 0) then .done
    else if octal? (field block 148 8) ≠ some (checksum block) then .fault
    else
      match number? (field block 124 12) with
      | none => .fault
      | some stated =>
        let size :=
          if stated = 0 then
            (announced.records.bind fun records => recordNumber? records "size").getD 0
          else stated
        if maxNumber < size + 511 || maxNumber < position + blockSize + filledSize size then .fault
        else .block block size (bytes.drop blockSize)

/-- Reads members from bytes of which the first `skip` still belong to the one before; at most
`fuel` headers. Members found are put in front of `found`. -/
def readFrom (clean : Bool) :
    (fuel : Nat) → List Entry → Announced → (position skip : Nat) → Bytes → Contents
  | 0, found, _, _, _, _ => ⟨found.reverse, false⟩
  | fuel + 1, found, announced, position, skip, bytes =>
    let bytes' := bytes.drop skip
    if bytes.length < skip then ⟨found.reverse, false⟩
    else
      let position := position + skip
      match readHeader clean announced position bytes' with
      | .fault => ⟨found.reverse, false⟩
      | .done => ⟨found.reverse, announced.isEmpty⟩
      | .block block size rest =>
        let flag := typeFlag block
        let known := layout block ≠ .plain
        let data := rest.take size
        let next := position + blockSize
        let describe (present : Bool) (announced : Announced) : Contents :=
          if present then ⟨found.reverse, false⟩
          else readFrom clean fuel found announced next (filledSize size) rest
        if known && flag = 0x4C then
          describe announced.longName.isSome { announced with longName := some data }
        else if known && flag = 0x4B then
          describe announced.longLink.isSome { announced with longLink := some data }
        else if known && flag = 0x78 then
          describe announced.records.isSome { announced with records := some data }
        else
          let entry : Entry :=
            { name := announced.nameOf block, flag, layout := layout block,
              mode := number? (field block 100 8), size, data }
          if flag = 0x53 then
            match readSparse block size rest with
            | none => ⟨found.reverse, false⟩
            | some (tables, rest) =>
              readFrom clean fuel (entry :: found) {} (next + blockSize * tables)
                (filledSize size) rest
          else readFrom clean fuel (entry :: found) {} next (filledSize size) rest

/-- The members of an archive. -/
def read (stream : ByteStream) : Contents :=
  readFrom stream.clean (stream.bytes.length / blockSize + 2) [] {} 0 0 stream.bytes

end ReleasePacker.Tar
