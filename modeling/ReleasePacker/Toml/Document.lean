import ReleasePacker.Toml.Scalar

/-!
# TOML documents

A document is a row of lines, each an entry, the header of a table, or nothing but a comment.
-/

namespace ReleasePacker.Toml

/-- The text after blanks within a line. -/
def skipBlanks (chars : List Char) : List Char :=
  chars.dropWhile fun c => c = ' ' || c = '\t'

/-- Whether a character may stand in a comment or in a quoted text of one line. -/
def isPlainChar (c : Char) : Bool :=
  c = '\t' || (0x20 ≤ c.toNat && c.toNat ≠ 0x7F)

/-- The text after a comment, which is nothing or starts at the end of the line. -/
def skipComment (chars : List Char) : List Char :=
  match chars with
  | '#' :: rest => rest.dropWhile isPlainChar
  | _ => chars

/-- The text after the end of a line. -/
def skipLineEnd (chars : List Char) : Option (List Char) :=
  match chars with
  | '\n' :: rest => some rest
  | '\r' :: '\n' :: rest => some rest
  | _ => none

/-- The text after blanks, comments and line ends; at most `fuel` lines. -/
def skipLines : (fuel : Nat) → List Char → List Char
  | 0, chars => chars
  | fuel + 1, chars =>
    let next := skipComment (skipBlanks chars)
    match skipLineEnd next with
    | some rest => skipLines fuel rest
    | none => next

/-- The number in exactly `count` hexadecimal digits. -/
def hexNumber? (count : Nat) (chars : List Char) : Option (Nat × List Char) :=
  let digits := chars.take count
  if digits.length < count then none
  else
    (digits.foldlM (fun value c => (digitValue? 16 c).map fun digit => value * 16 + digit) 0).map
      fun value => (value, chars.drop count)

/-- The character with a code point given in hexadecimal digits. -/
def codePoint? (count : Nat) (chars : List Char) : Option (Char × List Char) := do
  let (value, rest) ← hexNumber? count chars
  if value < 0xD800 || (0xDFFF < value && value < 0x110000) then return (Char.ofNat value, rest)
  else none

/-- The character that stands after a backslash. -/
def escape? (chars : List Char) : Option (Char × List Char) :=
  match chars with
  | 'b' :: rest => some ('\x08', rest)
  | 't' :: rest => some ('\t', rest)
  | 'n' :: rest => some ('\n', rest)
  | 'f' :: rest => some ('\x0c', rest)
  | 'r' :: rest => some ('\r', rest)
  | 'e' :: rest => some ('\x1b', rest)
  | '"' :: rest => some ('"', rest)
  | '\\' :: rest => some ('\\', rest)
  | 'x' :: rest => codePoint? 2 rest
  | 'u' :: rest => codePoint? 4 rest
  | 'U' :: rest => codePoint? 8 rest
  | _ => none

/-- The rest of a quoted text of one line in which backslashes have a meaning. -/
def basicText : (fuel : Nat) → List Char → List Char → Option (List Char × List Char)
  | 0, _, _ => none
  | fuel + 1, read, chars =>
    match chars with
    | '"' :: rest => some (read.reverse, rest)
    | '\\' :: rest => do
      let (c, rest) ← escape? rest
      basicText fuel (c :: read) rest
    | c :: rest => if isPlainChar c then basicText fuel (c :: read) rest else none
    | [] => none

/-- The rest of a quoted text of one line in which all characters stand for themselves. -/
def literalText (chars : List Char) : Option (List Char × List Char) :=
  let content := chars.takeWhile fun c => c ≠ '\'' && isPlainChar c
  match chars.drop content.length with
  | '\'' :: rest => some (content, rest)
  | _ => none

/-- How many quotes a text starts with, counted up to five. -/
def quoteRun (quote : Char) (chars : List Char) : Nat :=
  ((chars.take 5).takeWhile (· = quote)).length

/-- The rest of a quoted text of several lines. Three quotes end it; up to two more in front of
them belong to it. -/
def longText (quote : Char) : (fuel : Nat) → List Char → List Char → Option (List Char × List Char)
  | 0, _, _ => none
  | fuel + 1, read, chars =>
    let run := quoteRun quote chars
    if 3 ≤ run then some (read.reverse ++ List.replicate (run - 3) quote, chars.drop run)
    else
      match chars with
      | '\r' :: '\n' :: rest => longText quote fuel ('\n' :: '\r' :: read) rest
      | '\n' :: rest => longText quote fuel ('\n' :: read) rest
      | '\\' :: rest =>
        if quote = '\'' then longText quote fuel ('\\' :: read) rest
        else
          match skipLineEnd (skipBlanks rest) with
          | some next => longText quote fuel read (skipWhite next.length next)
          | none => do
            let (c, rest) ← escape? rest
            longText quote fuel (c :: read) rest
      | c :: rest => if isPlainChar c then longText quote fuel (c :: read) rest else none
      | [] => none
where
  /-- The text after blanks and line ends. -/
  skipWhite : (fuel : Nat) → List Char → List Char
    | 0, chars => chars
    | fuel + 1, chars =>
      match skipLineEnd (skipBlanks chars) with
      | some rest => skipWhite fuel rest
      | none => skipBlanks chars

/-- A text without one line end at its start. -/
def dropFirstLineEnd (chars : List Char) : List Char :=
  (skipLineEnd chars).getD chars

/-- A quoted text. -/
def quoted? (chars : List Char) : Option (List Char × List Char) :=
  match chars with
  | '"' :: '"' :: '"' :: rest => longText '"' (rest.length + 1) [] (dropFirstLineEnd rest)
  | '\'' :: '\'' :: '\'' :: rest => longText '\'' (rest.length + 1) [] (dropFirstLineEnd rest)
  | '"' :: rest => basicText (rest.length + 1) [] rest
  | '\'' :: rest => literalText rest
  | _ => none

/-- Whether a character can stand in a key without quotes. -/
def isKeyChar (c : Char) : Bool :=
  isDigit c || ('a' ≤ c && c ≤ 'z') || ('A' ≤ c && c ≤ 'Z') || c = '_' || c = '-'

/-- One part of a key. -/
def simpleKey? (chars : List Char) : Option (Key × List Char) :=
  match chars with
  | '"' :: rest => basicText (rest.length + 1) [] rest
  | '\'' :: rest => literalText rest
  | _ =>
    let key := chars.takeWhile isKeyChar
    if key.isEmpty then none else some (key, chars.drop key.length)

/-- A key with its dots: the parts in front, and the last part. At most `fuel` parts. -/
def key? : (fuel : Nat) → List Char → Option ((List Key × Key) × List Char)
  | 0, _ => none
  | fuel + 1, chars => do
    let (part, rest) ← simpleKey? (skipBlanks chars)
    match skipBlanks rest with
    | '.' :: rest =>
      let ((path, last), rest) ← key? fuel rest
      return ((part :: path, last), rest)
    | rest => return (([], part), rest)

/-- How deep values may stand within one another. -/
def maxDepth : Nat := 80

mutual

/-- A value. `depth` is how many brackets and braces are open around it. -/
def value? : (fuel depth : Nat) → List Char → Option (Value × List Char)
  | 0, _, _ => none
  | fuel + 1, depth, chars =>
    match chars with
    | '"' :: _ | '\'' :: _ => (quoted? chars).map fun found => (.text found.1, found.2)
    | '[' :: rest =>
      if maxDepth ≤ depth then none else items? fuel (depth + 1) [] rest
    | '{' :: rest =>
      if maxDepth ≤ depth then none else pairs? fuel (depth + 1) ⟨.written, []⟩ rest
    | _ =>
      let (word, rest) := takeWord chars
      (scalar? word).map fun value => (value, rest)

/-- The rest of a list whose items so far are given last first. -/
def items? : (fuel depth : Nat) → List Value → List Char → Option (Value × List Char)
  | 0, _, _, _ => none
  | fuel + 1, depth, read, chars =>
    match skipLines chars.length chars with
    | ']' :: rest => some (.array read.reverse, rest)
    | next => do
      let (item, rest) ← value? fuel depth next
      match skipLines rest.length rest with
      | ',' :: rest => items? fuel depth (item :: read) rest
      | ']' :: rest => return (.array (item :: read).reverse, rest)
      | _ => none

/-- The rest of a table between braces whose entries so far are given. -/
def pairs? : (fuel depth : Nat) → Table → List Char → Option (Value × List Char)
  | 0, _, _, _ => none
  | fuel + 1, depth, read, chars =>
    match skipLines chars.length chars with
    | '}' :: rest => some (.table .closed read.entries, rest)
    | next => do
      let ((path, key), rest) ← key? next.length next
      match skipBlanks rest with
      | '=' :: rest =>
        let (value, rest) ← value? fuel depth (skipBlanks rest)
        let read ← read.addPair path key value
        match skipLines rest.length rest with
        | ',' :: rest => pairs? fuel depth read rest
        | '}' :: rest => return (.table .closed read.entries, rest)
        | _ => none
      | _ => none

end

/-- A document that has been read up to the end of a line. -/
structure Progress where
  /-- The document so far. -/
  document : Table
  /-- The keys of the table that entries are added to. -/
  header : List Key

/-- Adds an entry to the table that the last header opened. -/
def Progress.addPair (progress : Progress) (path : List Key) (key : Key) (value : Value) :
    Option Progress := do
  let document ← progress.document.changeBelow .implied (Table.addPair path key value)
    progress.header
  return { progress with document }

/-- Reads one line, up to its end. -/
def line? (progress : Progress) (chars : List Char) : Option (Progress × List Char) :=
  match skipBlanks chars with
  | [] => some (progress, [])
  | '[' :: '[' :: rest => do
    let ((path, key), rest) ← key? rest.length rest
    let document ← progress.document.openElement path key
    match rest with
    | ']' :: ']' :: rest => return (⟨document, path ++ [key]⟩, rest)
    | _ => none
  | '[' :: rest => do
    let ((path, key), rest) ← key? rest.length rest
    let document ← progress.document.openTable path key
    match rest with
    | ']' :: rest => return (⟨document, path ++ [key]⟩, rest)
    | _ => none
  | '#' :: rest => some (progress, '#' :: rest)
  | '\n' :: rest => some (progress, '\n' :: rest)
  | '\r' :: rest => some (progress, '\r' :: rest)
  | next => do
    let ((path, key), rest) ← key? next.length next
    match rest with
    | '=' :: rest =>
      let (value, rest) ← value? (rest.length + 1) 0 (skipBlanks rest)
      let progress ← progress.addPair path key value
      return (progress, rest)
    | _ => none

/-- Reads lines up to the end of the text; at most `fuel` of them. -/
def lines? : (fuel : Nat) → Progress → List Char → Option Table
  | 0, _, _ => none
  | fuel + 1, progress, chars => do
    let (progress, rest) ← line? progress chars
    match skipComment (skipBlanks rest) with
    | [] => return progress.document
    | rest =>
      let rest ← skipLineEnd rest
      lines? fuel progress rest

/-- The table that a text describes, if the text is a document. A byte-order mark in front is
left out. -/
def parse? (text : String) : Option Table :=
  let chars := match text.toList with
    | '\uFEFF' :: rest => rest
    | chars => chars
  lines? (chars.length + 1) ⟨.empty, []⟩ chars

end ReleasePacker.Toml
