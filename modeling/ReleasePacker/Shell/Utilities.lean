import ReleasePacker.Text.Utf8
import ReleasePacker.Text.Lines
import ReleasePacker.FileSystem.Operations

/-!
# Utilities of the shell

What the simple utilities that scripts call write or answer.
-/

namespace ReleasePacker.Shell

/-- The number that octal digits stand for, at most three of them, and the rest. -/
def takeOctal (limit : Nat) (chars : List Char) : Nat × List Char :=
  let digits := (chars.take limit).takeWhile fun c => '0' ≤ c && c ≤ '7'
  (digits.foldl (fun value c => value * 8 + (c.toNat - 48)) 0, chars.drop digits.length)

/-- The bytes that a backslash and the text after it stand for, and the rest; `none` ends all
output. Octal numbers need a zero in front if `zero` says so. -/
def escapedBytes (zero : Bool) (chars : List Char) : Option Bytes × List Char :=
  match chars with
  | 'n' :: rest => (some [10], rest)
  | 't' :: rest => (some [9], rest)
  | 'r' :: rest => (some [13], rest)
  | 'a' :: rest => (some [7], rest)
  | 'b' :: rest => (some [8], rest)
  | 'f' :: rest => (some [12], rest)
  | 'v' :: rest => (some [11], rest)
  | '\\' :: rest => (some [0x5C], rest)
  | 'c' :: rest => (none, rest)
  | '0' :: rest =>
    if zero then
      let (value, rest) := takeOctal 3 rest
      (some [value.toUInt8], rest)
    else
      let (value, rest) := takeOctal 3 chars
      (some [value.toUInt8], rest)
  | c :: rest =>
    if !zero && '0' ≤ c && c ≤ '7' then
      let (value, rest) := takeOctal 3 chars
      (some [value.toUInt8], rest)
    else (some (0x5C :: Utf8.encodeChar c), rest)
  | [] => (some [0x5C], [])

/-- The bytes of a text in which backslashes have a meaning, and whether output goes on. -/
def interpreted (zero : Bool) : (fuel : Nat) → Bytes → List Char → Bytes × Bool
  | 0, written, _ => (written, true)
  | fuel + 1, written, chars =>
    match chars with
    | [] => (written, true)
    | '\\' :: rest =>
      match escapedBytes zero rest with
      | (some bytes, rest) => interpreted zero fuel (written ++ bytes) rest
      | (none, _) => (written, false)
    | c :: rest => interpreted zero fuel (written ++ Utf8.encodeChar c) rest

/-- What echoing words writes. -/
def echoText (words : List String) : Bytes :=
  let (quiet, words) := match words with
    | "-n" :: rest => (true, rest)
    | _ => (false, words)
  let text := (Text.joinWith " " words).toList
  let (bytes, goesOn) := interpreted true (text.length + 1) [] text
  if quiet || !goesOn then bytes else bytes ++ [10]

/-- A decimal number with a sign. -/
def number? (text : String) : Option Int :=
  let (negative, digits) := match text.toList with
    | '-' :: rest => (true, rest)
    | '+' :: rest => (false, rest)
    | chars => (false, chars)
  if digits.isEmpty || !digits.all Char.isDigit then none
  else
    let value : Int := digits.foldl (fun value c => value * 10 + (c.toNat - 48)) (0 : Nat)
    some (if negative then -value else value)

/-- What one pass over a format writes, and the arguments left over. -/
def formatOnce : (fuel : Nat) → Bytes → List String → List Char → Bytes × List String
  | 0, written, args, _ => (written, args)
  | fuel + 1, written, args, chars =>
    match chars with
    | [] => (written, args)
    | '\\' :: rest =>
      let (bytes, rest) := escapedBytes false rest
      formatOnce fuel (written ++ bytes.getD []) args rest
    | '%' :: '%' :: rest => formatOnce fuel (written ++ [0x25]) args rest
    | '%' :: 's' :: rest =>
      formatOnce fuel (written ++ Utf8.encode (args.headD "")) (args.drop 1) rest
    | '%' :: 'd' :: rest =>
      formatOnce fuel (written ++ Utf8.encode (toString ((number? (args.headD "")).getD 0)))
        (args.drop 1) rest
    | c :: rest => formatOnce fuel (written ++ Utf8.encodeChar c) args rest

/-- What formatting arguments writes. The format is used again while arguments are left over. -/
def formatAll (format : List Char) : (fuel : Nat) → Bytes → List String → Bytes
  | 0, written, _ => written
  | fuel + 1, written, args =>
    let (written, left) := formatOnce (format.length + 1) written args format
    if left.isEmpty || left.length = args.length then written
    else formatAll format fuel written left

/-- What formatted output writes. -/
def printfBytes (words : List String) : Bytes :=
  match words with
  | [] => []
  | format :: args => formatAll format.toList (args.length + 1) [] args

/-- Compares two numbers, if both texts are numbers. -/
def compareNumbers (relation : Int → Int → Bool) (a b : String) : Option Bool := do
  return relation (← number? a) (← number? b)

/-- Whether a condition holds; `none` for one that makes no sense. -/
def testHolds (files : FileSystem) (words : List String) : Option Bool :=
  match words with
  | [] => some false
  | [text] => some (text ≠ "")
  | ["!", text] => some (text = "")
  | ["-n", text] => some (text ≠ "")
  | ["-z", text] => some (text = "")
  | ["-f", path] => some (files.isFile ⟨path⟩)
  | ["-d", path] => some (files.isFolder ⟨path⟩)
  | ["-e", path] => some (files.isFile ⟨path⟩ || files.isFolder ⟨path⟩)
  | ["-x", path] => some (files.isFile ⟨path⟩ || files.isFolder ⟨path⟩)
  | [a, "=", b] => some (a = b)
  | [a, "!=", b] => some (a ≠ b)
  | [a, "-eq", b] => compareNumbers (fun x y => x = y) a b
  | [a, "-ne", b] => compareNumbers (fun x y => x ≠ y) a b
  | [a, "-lt", b] => compareNumbers (fun x y => x < y) a b
  | [a, "-le", b] => compareNumbers (fun x y => x ≤ y) a b
  | [a, "-gt", b] => compareNumbers (fun x y => x > y) a b
  | [a, "-ge", b] => compareNumbers (fun x y => x ≥ y) a b
  | ["!", a, op, b] => (testHolds files [a, op, b]).map (!·)
  | _ => none
termination_by words.length

mutual

/-- A sum or difference at the start of a text. -/
def sum? (lookup : String → String) : (fuel : Nat) → List Char → Option (Int × List Char)
  | 0, _ => none
  | fuel + 1, chars => do
    let (first, rest) ← product? lookup fuel chars
    sumFrom? lookup fuel first rest

/-- Goes on with a sum. -/
def sumFrom? (lookup : String → String) :
    (fuel : Nat) → Int → List Char → Option (Int × List Char)
  | 0, _, _ => none
  | fuel + 1, value, chars =>
    match chars.dropWhile (· = ' ') with
    | '+' :: rest => do
      let (next, rest) ← product? lookup fuel rest
      sumFrom? lookup fuel (value + next) rest
    | '-' :: rest => do
      let (next, rest) ← product? lookup fuel rest
      sumFrom? lookup fuel (value - next) rest
    | rest => some (value, rest)

/-- A product, quotient or remainder at the start of a text. -/
def product? (lookup : String → String) : (fuel : Nat) → List Char → Option (Int × List Char)
  | 0, _ => none
  | fuel + 1, chars => do
    let (first, rest) ← atom? lookup fuel chars
    productFrom? lookup fuel first rest

/-- Goes on with a product. -/
def productFrom? (lookup : String → String) :
    (fuel : Nat) → Int → List Char → Option (Int × List Char)
  | 0, _, _ => none
  | fuel + 1, value, chars =>
    match chars.dropWhile (· = ' ') with
    | '*' :: rest => do
      let (next, rest) ← atom? lookup fuel rest
      productFrom? lookup fuel (value * next) rest
    | '/' :: rest => do
      let (next, rest) ← atom? lookup fuel rest
      if next = 0 then none else productFrom? lookup fuel (value.tdiv next) rest
    | '%' :: rest => do
      let (next, rest) ← atom? lookup fuel rest
      if next = 0 then none else productFrom? lookup fuel (value.tmod next) rest
    | rest => some (value, rest)

/-- A number, a variable or an expression in parentheses at the start of a text. -/
def atom? (lookup : String → String) : (fuel : Nat) → List Char → Option (Int × List Char)
  | 0, _ => none
  | fuel + 1, chars =>
    match chars.dropWhile (· = ' ') with
    | '(' :: rest => do
      let (value, rest) ← sum? lookup fuel rest
      match rest.dropWhile (· = ' ') with
      | ')' :: rest => return (value, rest)
      | _ => none
    | '-' :: rest => (atom? lookup fuel rest).map fun found => (-found.1, found.2)
    | '$' :: rest => atom? lookup fuel rest
    | next =>
      let name := next.takeWhile fun c => c.isAlphanum || c = '_'
      let text := String.ofList name
      match number? text with
      | some value => some (value, next.drop name.length)
      | none =>
        if name.isEmpty then none
        else some ((number? (lookup text)).getD 0, next.drop name.length)

end

/-- The value of an expression. -/
def arithmetic? (lookup : String → String) (expression : List Char) : Option Int := do
  let (value, rest) ← sum? lookup (4 * expression.length + 4) expression
  if (rest.dropWhile (· = ' ')).isEmpty then some value else none

/-- What a pattern is made of. -/
inductive PatternPart where
  | char (c : Char)
  | anyChar
  | anyText
  deriving DecidableEq, Repr

/-- Whether a text agrees with a pattern. -/
def matchesPattern : List PatternPart → List Char → Bool
  | [], [] => true
  | [], _ :: _ => false
  | .char _ :: _, [] | .anyChar :: _, [] => false
  | .char c :: parts, d :: rest => c = d && matchesPattern parts rest
  | .anyChar :: parts, _ :: rest => matchesPattern parts rest
  | .anyText :: parts, [] => matchesPattern parts []
  | .anyText :: parts, d :: rest =>
    matchesPattern parts (d :: rest) || matchesPattern (.anyText :: parts) rest
termination_by parts text => parts.length + text.length

/-- The number of milliseconds in a number of seconds that may have a fraction. -/
def milliseconds? (text : String) : Option Nat :=
  match Text.splitAt '.' text.toList with
  | [whole] => (number? (String.ofList whole)).map fun value => value.toNat * 1000
  | [whole, fraction] =>
    let digits := (fraction ++ ['0', '0', '0']).take 3
    (number? (String.ofList ('0' :: whole ++ digits))).map Int.toNat
  | _ => none

end ReleasePacker.Shell
