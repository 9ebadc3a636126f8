import ReleasePacker.Text.Lines
import ReleasePacker.Text.Utf8
import ReleasePacker.Text.Blank

/-!
# Headers of tape archives

A member of a tape archive begins with a block of 512 bytes whose fields stand at fixed places.
Numbers are octal text, or binary if the first bit is set.
-/

namespace ReleasePacker.Tar

/-- The size of a block. -/
def blockSize : Nat := 512

/-- The bytes of the field at an offset. -/
def field (block : Bytes) (offset length : Nat) : Bytes :=
  (block.drop offset).take length

/-- The bytes up to the first zero. -/
def untilZero (bytes : Bytes) : Bytes :=
  bytes.takeWhile (· ≠ 0)

/-- The value of digits in a base, up to a bound; there must be a digit, and a plus sign may
stand in front. -/
def digits? (base bound : Nat) (chars : List Char) : Option Nat :=
  let digits := match chars with
    | '+' :: rest => rest
    | _ => chars
  if digits.isEmpty then none
  else
    match digits.foldlM step 0 with
    | some value => if value ≤ bound then some value else none
    | none => none
where
  step (value : Nat) (c : Char) : Option Nat :=
    let digit := c.toNat - 48
    if '0' ≤ c ∧ c ≤ '9' ∧ digit < base then some (value * base + digit) else none

/-- The greatest number that a header can state. -/
def maxNumber : Nat := Nat.pow 2 64 - 1

/-- The number that a field states in octal text, blanks around it left out. -/
def octal? (bytes : Bytes) : Option Nat := do
  let text ← Utf8.decode? (untilZero bytes)
  digits? 8 maxNumber (Text.trimChars text.toList)

/-- The number that a field states: binary in its last eight bytes if its first bit is set, and
octal text otherwise. -/
def number? (bytes : Bytes) : Option Nat :=
  match bytes with
  | [] => none
  | first :: _ =>
    if first &&& 0x80 = 0 then octal? bytes
    else some ((bytes.drop (bytes.length - 8)).foldl (fun value byte => value * 256 + byte.toNat) 0)

/-- The sum of a header's bytes, with blanks in place of the sum that it states. -/
def checksum (block : Bytes) : Nat :=
  (block.take 148 ++ block.drop 156).foldl (fun sum byte => sum + byte.toNat) (8 * 32)

/-- The layouts of a header. -/
inductive Layout where
  /-- The oldest layout, without a marker. -/
  | plain
  /-- The layout that has a field for the front part of a long name. -/
  | ustar
  /-- The layout that puts long names into members of their own. -/
  | gnu
  deriving DecidableEq, Repr

/-- The marker of the `ustar` layout. -/
def ustarMagic : Bytes := Utf8.encode "ustar" ++ [0] ++ Utf8.encode "00"

/-- The marker of the `gnu` layout. -/
def gnuMagic : Bytes := Utf8.encode "ustar  " ++ [0]

/-- The layout of a header. -/
def layout (block : Bytes) : Layout :=
  let magic := field block 257 8
  if magic = ustarMagic then .ustar else if magic = gnuMagic then .gnu else .plain

/-- The letter that tells what sort of member a header begins. -/
def typeFlag (block : Bytes) : UInt8 := (block.drop 156).headD 0

/-- The name that a header gives its member. -/
def headerName (block : Bytes) : Bytes :=
  let name := untilZero (field block 0 100)
  if layout block = .ustar then
    let front := untilZero (field block 345 155)
    if front.isEmpty then name else front ++ [0x2F] ++ name
  else name

/-- The records of an extended header: lines that state their own length, a key and a value.
The list ends at an empty line; a line that breaks the rules is `none`. -/
def records (bytes : Bytes) : List (Option (Bytes × Bytes)) :=
  ((Text.splitAt 0x0A bytes).takeWhile fun line => !line.isEmpty).map record
where
  /-- One line without its line feed. -/
  record (line : Bytes) : Option (Bytes × Bytes) :=
    let count := line.takeWhile (· ≠ 0x20)
    let body := (line.drop count.length).drop 1
    let key := body.takeWhile (· ≠ 0x3D)
    match Utf8.decode? count with
    | none => none
    | some text =>
      if count.length < line.length && key.length < body.length
          && digits? 10 maxNumber text.toList = some (line.length + 1) then
        some (key, body.drop (key.length + 1))
      else none

/-- The value of the first well-formed record with a key. -/
def recordValue? (bytes : Bytes) (key : String) : Option Bytes :=
  (records bytes).findSome? fun record =>
    match record with
    | some (found, value) => if found = Utf8.encode key then some value else none
    | none => none

/-- The number in the first record with a key, if all records before it are well formed. -/
def recordNumber? (bytes : Bytes) (key : String) : Option Nat :=
  go (records bytes)
where
  go : List (Option (Bytes × Bytes)) → Option Nat
    | [] | none :: _ => none
    | some (found, value) :: rest =>
      if found = Utf8.encode key then do
        let text ← Utf8.decode? value
        digits? 10 maxNumber text.toList
      else go rest

end ReleasePacker.Tar
