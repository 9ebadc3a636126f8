import ReleasePacker.Tar.Header

/-!
# Writing tape archives

Regular files are written with headers in the `gnu` layout. A name that does not fit a header
goes in front of it as a member of its own.
-/

namespace ReleasePacker.Tar

/-- A file to be written. -/
structure Member where
  name : String
  mode : Nat
  content : Bytes
  deriving DecidableEq, Repr

/-- The octal digits of a number, at least `width` of them. -/
def octalDigits (width value : Nat) : Bytes :=
  let digits := (Nat.toDigits 8 value).map fun c => c.toNat.toUInt8
  List.replicate (width - digits.length) 0x30 ++ digits

/-- The field of a number: octal text that ends in a zero byte, or binary if it is too large. -/
def numberField (width value : Nat) : Bytes :=
  let digits := octalDigits (width - 1) value
  if digits.length < width then digits ++ [0]
  else 0x80 :: (List.range (width - 1)).reverse.map fun place => (value / Nat.pow 256 place).toUInt8

/-- The bytes filled up with zeros, or cut, to a length. -/
def padTo (length : Nat) (bytes : Bytes) : Bytes :=
  bytes.take length ++ List.replicate (length - bytes.length) 0

/-- The longest name that fits a header. -/
def nameField : Nat := 100

/-- A header whose checksum field is the given one. -/
def headerWith (sum name : Bytes) (flag : UInt8) (mode size : Nat) : Bytes :=
  padTo blockSize
    (padTo nameField name ++ numberField 8 mode ++ numberField 8 0 ++ numberField 8 0 ++
      numberField 12 size ++ numberField 12 0 ++ sum ++ [flag] ++ padTo 100 [] ++ gnuMagic)

/-- A header. -/
def header (name : Bytes) (flag : UInt8) (mode size : Nat) : Bytes :=
  let blank := headerWith (List.replicate 8 0x20) name flag mode size
  headerWith (octalDigits 7 (checksum blank) ++ [0]) name flag mode size

/-- Data filled up with zeros to whole blocks. -/
def filled (data : Bytes) : Bytes :=
  data ++ List.replicate ((blockSize - data.length % blockSize) % blockSize) 0

/-- The longest front part of a name that fits a header and does not end within a character. -/
def shortName (name : String) : Bytes :=
  name.toList.foldl step ([], false) |>.1
where
  step (state : Bytes × Bool) (c : Char) : Bytes × Bool :=
    let longer := state.1 ++ Utf8.encodeChar c
    if state.2 || nameField < longer.length then (state.1, true) else (longer, false)

/-- The blocks of a file. -/
def Member.blocks (member : Member) : Bytes :=
  let name := Utf8.encode member.name
  let long :=
    if name.length ≤ nameField then []
    else
      header (Utf8.encode "././@LongLink") 0x4C 0o644 (name.length + 1) ++ filled (name ++ [0])
  long ++ header (shortName member.name) 0x30 member.mode member.content.length ++
    filled member.content

/-- The archive of a list of files: their blocks, and two blocks of zeros. -/
def write (members : List Member) : Bytes :=
  members.flatMap Member.blocks ++ List.replicate (2 * blockSize) 0

end ReleasePacker.Tar
