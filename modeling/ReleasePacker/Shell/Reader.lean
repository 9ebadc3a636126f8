import ReleasePacker.Shell.Syntax
import ReleasePacker.Text.Lines

/-!
# Reading shell scripts

A script is cut into words and operators, and these are put together to commands.
-/

namespace ReleasePacker.Shell

/-- A word or an operator of a script. -/
inductive Token where
  /-- A word and the line it stands on. -/
  | word (pieces : Word) (line : Nat)
  | operator (text : String)
  /-- A redirection sign with the stream it is for. -/
  | redirect (stream : Nat) (sign : String)
  deriving DecidableEq, Repr

/-- Whether a character can stand in a name. -/
def isNameChar (c : Char) : Bool := c.isAlphanum || c = '_'

/-- The text up to the double parenthesis that closes an arithmetic expression, and the rest. -/
def takeArithmetic : (depth : Nat) → List Char → Option (List Char × List Char)
  | _, [] => none
  | 0, ')' :: ')' :: rest => some ([], rest)
  | depth, c :: rest => do
    let depth := if c = '(' then depth + 1 else if c = ')' then depth - 1 else depth
    let (inside, after) ← takeArithmetic depth rest
    return (c :: inside, after)

/-- What stands after a dollar sign. -/
def expansion? (quoted : Bool) (chars : List Char) : Option (Piece × List Char) :=
  match chars with
  | '(' :: '(' :: rest =>
    (takeArithmetic 0 rest).map fun found => (.arithmetic found.1 quoted, found.2)
  | '\x7b' :: rest =>
    let name := rest.takeWhile fun c => isNameChar c || c = '?' || c = '#'
    match rest.drop name.length with
    | '\x7d' :: after => some (.parameter (String.ofList name) none quoted, after)
    | ':' :: '-' :: after =>
      let fallback := after.takeWhile (· ≠ '\x7d')
      match after.drop fallback.length with
      | _ :: after =>
        some (.parameter (String.ofList name) (some (String.ofList fallback)) quoted, after)
      | [] => none
    | _ => none
  | c :: rest =>
    if c = '*' || c = '@' || c = '#' || c = '?' || c = '$' || c.isDigit then
      some (.parameter (String.ofList [c]) none quoted, rest)
    else
      let name := chars.takeWhile isNameChar
      if name.isEmpty then some (.text ['$'] quoted, chars)
      else some (.parameter (String.ofList name) none quoted, chars.drop name.length)
  | [] => some (.text ['$'] quoted, [])

/-- The pieces between double quotes, last first. -/
def doubleQuoted : (fuel : Nat) → Word → List Char → Option (Word × List Char)
  | 0, _, _ => none
  | fuel + 1, read, chars =>
    match chars with
    | [] => none
    | '"' :: rest => some (read, rest)
    | '\\' :: '\n' :: rest => doubleQuoted fuel read rest
    | '\\' :: c :: rest =>
      let kept := if c = '"' || c = '\\' || c = '$' || c = '`' then [c] else ['\\', c]
      doubleQuoted fuel (.text kept true :: read) rest
    | '$' :: rest => do
      let (piece, rest) ← expansion? true rest
      doubleQuoted fuel (piece :: read) rest
    | c :: rest => doubleQuoted fuel (.text [c] true :: read) rest

/-- Whether a character ends a word. -/
def endsWord (c : Char) : Bool :=
  c = ' ' || c = '\t' || c = '\n' || c = ';' || c = '&' || c = '|' || c = '(' || c = ')'
    || c = '<' || c = '>'

/-- The pieces of a word, last first. -/
def wordPieces : (fuel : Nat) → Word → List Char → Option (Word × List Char)
  | 0, _, _ => none
  | fuel + 1, read, chars =>
    match chars with
    | [] => some (read, [])
    | '\'' :: rest =>
      let inside := rest.takeWhile (· ≠ '\'')
      match rest.drop inside.length with
      | _ :: rest => wordPieces fuel (.text inside true :: read) rest
      | [] => none
    | '"' :: rest => do
      let (read, rest) ← doubleQuoted (rest.length + 1) (.text [] true :: read) rest
      wordPieces fuel read rest
    | '\\' :: '\n' :: rest => wordPieces fuel read rest
    | '\\' :: c :: rest => wordPieces fuel (.text [c] true :: read) rest
    | '$' :: rest => do
      let (piece, rest) ← expansion? false rest
      wordPieces fuel (piece :: read) rest
    | c :: rest =>
      if endsWord c then some (read, chars) else wordPieces fuel (.text [c] false :: read) rest

/-- Neighbouring texts of one sort put together. -/
def mergePieces : Word → Word
  | .text a qa :: rest =>
    match mergePieces rest with
    | .text b qb :: rest =>
      if qa = qb then .text (a ++ b) qa :: rest else .text a qa :: .text b qb :: rest
    | merged => .text a qa :: merged
  | piece :: rest => piece :: mergePieces rest
  | [] => []

/-- The operators of more than one character before those of one. -/
def operators : List String := ["&&", "||", ";;", ";", "|", "&", "(", ")"]

/-- The operator at the start of a text. -/
def operator? (chars : List Char) : Option (String × List Char) :=
  operators.findSome? fun op =>
    if op.toList.isPrefixOf chars then some (op, chars.drop op.length) else none

/-- The redirection sign at the start of a text, with a stream number in front of it. -/
def redirect? (chars : List Char) : Option (Token × List Char) :=
  let digits := chars.takeWhile Char.isDigit
  let stream := digits.foldl (fun value c => value * 10 + (c.toNat - 48)) 0
  let signs := [">>", ">&", ">", "<"]
  signs.findSome? fun sign =>
    let rest := chars.drop digits.length
    if sign.toList.isPrefixOf rest then
      let standard := if sign = "<" then 0 else 1
      some (.redirect (if digits.isEmpty then standard else stream) sign, rest.drop sign.length)
    else none

/-- The words and operators of a text, the line ends among them. -/
def tokensFrom : (fuel line : Nat) → List Char → Option (List Token)
  | 0, _, _ => none
  | fuel + 1, line, chars =>
    match chars with
    | [] => some []
    | ' ' :: rest | '\t' :: rest => tokensFrom fuel line rest
    | '\n' :: rest => (tokensFrom fuel (line + 1) rest).map (.operator "\n" :: ·)
    | '\\' :: '\n' :: rest => tokensFrom fuel (line + 1) rest
    | '#' :: rest => tokensFrom fuel line (rest.dropWhile (· ≠ '\n'))
    | _ =>
      match operator? chars with
      | some (op, rest) => (tokensFrom fuel line rest).map (.operator op :: ·)
      | none =>
        match redirect? chars with
        | some (token, rest) => (tokensFrom fuel line rest).map (token :: ·)
        | none => do
          let (pieces, rest) ← wordPieces (chars.length + 1) [] chars
          let others ← tokensFrom fuel line rest
          return .word (mergePieces pieces.reverse) line :: others

/-- The words and operators of a script. -/
def tokens? (text : String) : Option (List Token) :=
  tokensFrom (text.toList.length + 1) 1 text.toList

/-- The text of a word without quotes and expansions. -/
def plainWord? : Token → Option String
  | .word [.text chars false] _ => some (String.ofList chars)
  | _ => none

/-- Whether a token is a word with a meaning of its own. -/
def isKeyword (keyword : String) (token : Token) : Bool := plainWord? token = some keyword

/-- The tokens without line ends at the start. -/
def skipLineEnds : List Token → List Token
  | .operator "\n" :: rest => skipLineEnds rest
  | tokens => tokens

/-- The words that end a list of commands. -/
def closingWords : List String := ["then", "else", "elif", "fi", "do", "done", "esac", "\x7d"]

/-- Whether a list of commands ends here. -/
def isAtEnd : List Token → Bool
  | [] => true
  | .operator op :: _ => op = ";;" || op = ")"
  | token :: _ =>
    match plainWord? token with
    | some text => closingWords.contains text
    | none => false

/-- The assignment that a word is. -/
def assignment? : Word → Option (String × Word)
  | .text chars false :: rest =>
    let name := chars.takeWhile isNameChar
    match name, chars.drop name.length with
    | first :: _, '=' :: value =>
      if first.isDigit then none
      else some (String.ofList name, if value.isEmpty then rest else .text value false :: rest)
    | _, _ => none
  | _ => none

/-- The number of a stream after a duplicating sign. -/
def streamNumber? : Token → Option Nat
  | .word [.text chars false] _ =>
    if chars.all Char.isDigit && !chars.isEmpty then
      some (chars.foldl (fun value c => value * 10 + (c.toNat - 48)) 0)
    else none
  | _ => none

/-- Reads assignments, words and redirections up to an operator. -/
def readSimple : (line : Nat) → List (String × Word) → List Word → List Redirection → List Token →
    Option (Script × List Token)
  | line, assignments, words, redirections, tokens =>
    match tokens with
    | .word pieces _ :: rest =>
      match (if words.isEmpty then assignment? pieces else none) with
      | some found => readSimple line (assignments ++ [found]) words redirections rest
      | none => readSimple line assignments (words ++ [pieces]) redirections rest
    | .redirect stream sign :: next :: rest =>
      match sign, next with
      | ">&", token =>
        match streamNumber? token with
        | some other =>
          readSimple line assignments words (redirections ++ [.duplicate stream other]) rest
        | none => none
      | "<", .word pieces _ =>
        readSimple line assignments words (redirections ++ [.input pieces]) rest
      | sign, .word pieces _ =>
        readSimple line assignments words
          (redirections ++ [.output stream (sign = ">>") pieces]) rest
      | _, _ => none
    | .redirect _ _ :: [] => none
    | _ => some (.simple line assignments words redirections, tokens)

/-- The line of the first token that has one. -/
def lineOf : List Token → Nat
  | .word _ line :: _ => line
  | _ :: rest => lineOf rest
  | [] => 1

/-- The patterns of a branch, up to the parenthesis. -/
def readPatterns : List Word → List Token → Option (List Word × List Token)
  | read, .word pieces _ :: .operator "|" :: rest => readPatterns (read ++ [pieces]) rest
  | read, .word pieces _ :: .operator ")" :: rest => some (read ++ [pieces], rest)
  | _, _ => none

/-- The words after the name of a loop variable, up to the end of the line. -/
def readLoopWords : List Word → List Token → List Word × List Token
  | read, .word pieces _ :: rest => readLoopWords (read ++ [pieces]) rest
  | read, .operator _ :: rest => (read, rest)
  | read, rest => (read, rest)

/-- The tokens after a word with a meaning of its own. -/
def expect (keyword : String) : List Token → Option (List Token)
  | token :: rest => if isKeyword keyword token then some rest else none
  | [] => none

mutual

/-- Reads commands up to the end of a list. -/
def readList : (fuel : Nat) → List Token → Option (Script × List Token)
  | 0, _ => none
  | fuel + 1, tokens => do
    let tokens := skipLineEnds tokens
    if isAtEnd tokens then return (.nothing, tokens)
    let (first, rest) ← readChain fuel tokens
    match rest with
    | .operator op :: rest =>
      if op = ";" || op = "\n" then
        let (others, rest) ← readList fuel rest
        return (.sequence first others, rest)
      else if isAtEnd (.operator op :: rest) then return (first, .operator op :: rest)
      else none
    | _ => if isAtEnd rest then return (first, rest) else none

/-- Reads commands that depend on one another. -/
def readChain : (fuel : Nat) → List Token → Option (Script × List Token)
  | 0, _ => none
  | fuel + 1, tokens => do
    let (first, rest) ← readPipeline fuel tokens
    chainFrom fuel first rest

/-- Goes on after a command that others may depend on. -/
def chainFrom : (fuel : Nat) → Script → List Token → Option (Script × List Token)
  | 0, _, _ => none
  | fuel + 1, left, tokens =>
    match tokens with
    | .operator "&&" :: rest => do
      let (right, rest) ← readPipeline fuel (skipLineEnds rest)
      chainFrom fuel (.both left right) rest
    | .operator "||" :: rest => do
      let (right, rest) ← readPipeline fuel (skipLineEnds rest)
      chainFrom fuel (.either left right) rest
    | _ => some (left, tokens)

/-- Reads commands that feed one another. -/
def readPipeline : (fuel : Nat) → List Token → Option (Script × List Token)
  | 0, _ => none
  | fuel + 1, tokens =>
    match tokens with
    | token :: rest =>
      if isKeyword "!" token then do
        let (body, rest) ← readPipeline fuel rest
        return (.negate body, rest)
      else do
        let (left, rest) ← readCommand fuel tokens
        match rest with
        | .operator "|" :: rest =>
          let (right, rest) ← readPipeline fuel (skipLineEnds rest)
          return (.pipe left right, rest)
        | _ => return (left, rest)
    | [] => none

/-- Reads one command. -/
def readCommand : (fuel : Nat) → List Token → Option (Script × List Token)
  | 0, _ => none
  | fuel + 1, tokens =>
    match tokens with
    | .operator "(" :: rest => do
      let (body, rest) ← readList fuel rest
      match rest with
      | .operator ")" :: rest => return (.subshell body, rest)
      | _ => none
    | token :: rest =>
      match plainWord? token with
      | some "\x7b" => do
        let (body, rest) ← readList fuel rest
        return (body, ← expect "\x7d" rest)
      | some "if" => readCondition fuel rest
      | some "while" => readLoop fuel true rest
      | some "until" => readLoop fuel false rest
      | some "for" =>
        match rest with
        | name :: keyword :: rest => do
          let name ← plainWord? name
          if !isKeyword "in" keyword then none
          let (words, rest) := readLoopWords [] rest
          let rest ← expect "do" (skipLineEnds rest)
          let (body, rest) ← readList fuel rest
          return (.forEach name words body, ← expect "done" rest)
        | _ => none
      | some "case" =>
        match rest with
        | .word subject _ :: rest => do
          let rest ← expect "in" (skipLineEnds rest)
          let (branches, rest) ← readBranches fuel rest
          return (.choice subject branches, rest)
        | _ => none
      | _ => readSimple (lineOf tokens) [] [] [] tokens
    | [] => none

/-- Reads a condition after its first word. -/
def readCondition : (fuel : Nat) → List Token → Option (Script × List Token)
  | 0, _ => none
  | fuel + 1, tokens => do
    let (test, rest) ← readList fuel tokens
    let rest ← expect "then" rest
    let (yes, rest) ← readList fuel rest
    match rest with
    | token :: after =>
      if isKeyword "fi" token then return (.condition test yes .nothing, after)
      else if isKeyword "else" token then
        let (no, rest) ← readList fuel after
        return (.condition test yes no, ← expect "fi" rest)
      else if isKeyword "elif" token then
        let (no, rest) ← readCondition fuel after
        return (.condition test yes no, rest)
      else none
    | [] => none

/-- Reads a loop after its first word. -/
def readLoop : (fuel : Nat) → Bool → List Token → Option (Script × List Token)
  | 0, _, _ => none
  | fuel + 1, whileTrue, tokens => do
    let (test, rest) ← readList fuel tokens
    let rest ← expect "do" rest
    let (body, rest) ← readList fuel rest
    return (.loop test whileTrue body, ← expect "done" rest)

/-- Reads the branches of a choice. -/
def readBranches : (fuel : Nat) → List Token → Option (List (List Word × Script) × List Token)
  | 0, _ => none
  | fuel + 1, tokens =>
    match skipLineEnds tokens with
    | [] => none
    | token :: rest =>
      if isKeyword "esac" token then some ([], rest)
      else do
        let start := match token with
          | .operator "(" => rest
          | _ => token :: rest
        let (patterns, rest) ← readPatterns [] start
        let (body, rest) ← readList fuel rest
        let rest := match rest with
          | .operator ";;" :: rest => rest
          | _ => rest
        let (others, rest) ← readBranches fuel rest
        return ((patterns, body) :: others, rest)

end

/-- The command that a script is. -/
def Script.read? (text : String) : Option Script := do
  let tokens ← tokens? text
  let (script, rest) ← readList (4 * tokens.length + 4) tokens
  if rest.isEmpty then some script else none

end ReleasePacker.Shell
