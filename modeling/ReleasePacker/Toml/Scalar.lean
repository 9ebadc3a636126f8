import ReleasePacker.Toml.Value

/-!
# TOML scalars

Numbers, truth values, dates and times, as they are written without quotes.
-/

namespace ReleasePacker.Toml

/-- Whether a character is a decimal digit. -/
def isDigit (c : Char) : Bool := '0' ≤ c && c ≤ '9'

/-- The value of a digit in a base up to sixteen. -/
def digitValue? (base : Nat) (c : Char) : Option Nat :=
  let value :=
    if isDigit c then c.toNat - 48
    else if 'a' ≤ c && c ≤ 'f' then c.toNat - 87
    else if 'A' ≤ c && c ≤ 'F' then c.toNat - 55
    else 16
  if value < base then some value else none

/-- The number that digits in a base stand for; a single underscore may stand between two. -/
def underscored? (base : Nat) (chars : List Char) : Option Nat :=
  let groups := Text.splitAt '_' chars
  if groups.any List.isEmpty then none
  else
    groups.flatten.foldlM
      (fun value c => (digitValue? base c).map fun digit => value * base + digit) 0

/-- A decimal number without needless zeros in front. -/
def plainNatural? (chars : List Char) : Option Nat :=
  match chars with
  | '0' :: _ :: _ => none
  | _ => underscored? 10 chars

/-- The sign of a number and what follows it. -/
def takeSign (chars : List Char) : Option Bool × List Char :=
  match chars with
  | '+' :: rest => (some false, rest)
  | '-' :: rest => (some true, rest)
  | _ => (none, chars)

/-- A whole number. -/
def integer? (chars : List Char) : Option Int :=
  match chars with
  | '0' :: 'x' :: rest => (underscored? 16 rest).map Int.ofNat
  | '0' :: 'o' :: rest => (underscored? 8 rest).map Int.ofNat
  | '0' :: 'b' :: rest => (underscored? 2 rest).map Int.ofNat
  | _ =>
    let (sign, rest) := takeSign chars
    (plainNatural? rest).map fun value =>
      if sign = some true then -Int.ofNat value else Int.ofNat value

/-- The exponent of a number, and what stands in front of it. -/
def takeExponent (chars : List Char) : Option (List Char × Option Int) :=
  match chars.dropWhile fun c => c ≠ 'e' && c ≠ 'E' with
  | [] => some (chars, none)
  | _ :: written =>
    let (sign, digits) := takeSign written
    (underscored? 10 digits).map fun value =>
      (chars.takeWhile fun c => c ≠ 'e' && c ≠ 'E',
       some (if sign = some true then -Int.ofNat value else Int.ofNat value))

/-- A number with a fraction or an exponent. -/
def real? (chars : List Char) : Option (Option Decimal) :=
  let (_, unsigned) := takeSign chars
  if unsigned = ['i', 'n', 'f'] || unsigned = ['n', 'a', 'n'] then some none
  else do
    let (front, exponent) ← takeExponent unsigned
    match Text.splitAt '.' front, exponent with
    | [whole], some exponent =>
      let digits ← plainNatural? whole
      return some ⟨digits, exponent⟩
    | [whole, fraction], exponent =>
      let digits ← plainNatural? whole
      let more ← underscored? 10 fraction
      let places := (fraction.filter isDigit).length
      return some ⟨digits * Nat.pow 10 places + more, exponent.getD 0 - places⟩
    | _, _ => none

/-- A number of exactly `width` digits. -/
def fixedDigits? (width : Nat) (chars : List Char) : Option Nat :=
  if chars.length = width && chars.all isDigit then underscored? 10 chars else none

/-- The days of a month. -/
def daysIn (year month : Nat) : Nat :=
  if month = 2 then
    if year % 4 = 0 && (year % 100 ≠ 0 || year % 400 = 0) then 29 else 28
  else if month = 4 || month = 6 || month = 9 || month = 11 then 30
  else 31

/-- Whether a text is a date. -/
def isDate (chars : List Char) : Bool :=
  match Text.splitAt '-' chars with
  | [year, month, day] =>
    match fixedDigits? 4 year, fixedDigits? 2 month, fixedDigits? 2 day with
    | some year, some month, some day =>
      1 ≤ month && month ≤ 12 && 1 ≤ day && day ≤ daysIn year month
    | _, _, _ => false
  | _ => false

/-- Whether a text is a number of exactly two digits up to a bound. -/
def isTwoDigits (bound : Nat) (chars : List Char) : Bool :=
  match fixedDigits? 2 chars with
  | some value => value ≤ bound
  | none => false

/-- Whether a text is a time of day; seconds and their fraction may be left out. -/
def isTime (chars : List Char) : Bool :=
  match Text.splitAt ':' chars with
  | [hour, minute] => isTwoDigits 23 hour && isTwoDigits 59 minute
  | [hour, minute, second] =>
    isTwoDigits 23 hour && isTwoDigits 59 minute &&
      match Text.splitAt '.' second with
      | [whole] => isTwoDigits 60 whole
      | [whole, fraction] => isTwoDigits 60 whole && !fraction.isEmpty && fraction.all isDigit
      | _ => false
  | _ => false

/-- Whether a text is a time of day that may be followed by its distance from universal time. -/
def isZonedTime (chars : List Char) : Bool :=
  let time := chars.takeWhile fun c => isDigit c || c = ':' || c = '.'
  isTime time &&
    match chars.drop time.length with
    | [] | ['Z'] | ['z'] => true
    | sign :: offset =>
      (sign = '+' || sign = '-') &&
        match Text.splitAt ':' offset with
        | [hour, minute] => isTwoDigits 23 hour && isTwoDigits 59 minute
        | _ => false

/-- Whether a text is a date, a time, or both. -/
def isMoment (chars : List Char) : Bool :=
  isTime chars || isDate chars ||
    (isDate (chars.take 10) &&
      match chars.drop 10 with
      | separator :: time =>
        (separator = 'T' || separator = 't' || separator = ' ') && isZonedTime time
      | [] => false)

/-- The value that an unquoted word stands for. -/
def scalar? (word : List Char) : Option Value :=
  if word = ['t', 'r', 'u', 'e'] then some (.boolean true)
  else if word = ['f', 'a', 'l', 's', 'e'] then some (.boolean false)
  else
    match integer? word with
    | some value => some (.integer value)
    | none =>
      match real? word with
      | some magnitude => some (.real magnitude)
      | none => if isMoment word then some .moment else none

/-- Whether a character can stand in an unquoted word. -/
def isWordChar (c : Char) : Bool :=
  isDigit c || ('a' ≤ c && c ≤ 'z') || ('A' ≤ c && c ≤ 'Z') || c = '_' || c = '+' || c = '-'
    || c = '.' || c = ':'

/-- The unquoted word at the start of a text, and the rest. A date takes in a time that follows
after a single blank. -/
def takeWord (chars : List Char) : List Char × List Char :=
  let word := chars.takeWhile isWordChar
  match isDate word, chars.drop word.length with
  | true, ' ' :: digit :: rest =>
    if isDigit digit then
      let time := (digit :: rest).takeWhile isWordChar
      (word ++ ' ' :: time, (digit :: rest).drop time.length)
    else (word, ' ' :: digit :: rest)
  | _, rest => (word, rest)

end ReleasePacker.Toml
