import ReleasePacker.Text.Lines

/-!
# TOML values

A document is a table whose entries may be written in several places, so a table remembers how
it came to be: that decides what may still be added to it.
-/

namespace ReleasePacker.Toml

/-- How a table came to be. -/
inductive Origin where
  /-- By a header of its own, or as the document itself. -/
  | written
  /-- By standing in front of a dot in the header of another table. -/
  | implied
  /-- By standing in front of a dot in the key of an entry. -/
  | dotted
  /-- Between braces; nothing can be added to it. -/
  | closed
  deriving DecidableEq, Repr

/-- A decimal number: a whole number times a power of ten. -/
structure Decimal where
  digits : Nat
  exponent : Int
  deriving DecidableEq, Repr

/-- A value of a document. -/
inductive Value where
  | text (chars : List Char)
  | boolean (value : Bool)
  | integer (value : Int)
  /-- A number with a fraction or an exponent; `none` for the infinite and the undefined one. -/
  | real (magnitude : Option Decimal)
  | moment
  /-- A list written between brackets. -/
  | array (items : List Value)
  | table (origin : Origin) (entries : List (List Char × Value))
  /-- A list of tables, each written under a header; the last stands first. -/
  | tables (latest : List (List (List Char × Value)))

/-- A key of a document. -/
abbrev Key := List Char

/-- The entries of a table and how it came to be. -/
structure Table where
  origin : Origin
  entries : List (Key × Value)

namespace Table

/-- The document before its first line. -/
def empty : Table := ⟨.written, []⟩

/-- The value under a key. -/
def get? (table : Table) (key : Key) : Option Value :=
  table.entries.lookup key

/-- The table with another value under a key. -/
def set (table : Table) (key : Key) (value : Value) : Table :=
  { table with entries := (key, value) :: table.entries.filter fun entry => entry.1 ≠ key }

/-- Changes the table below a row of keys. Tables that are missing on the way come to be with
the origin `made`; of a list of tables the last is meant. -/
def changeBelow (made : Origin) (change : Table → Option Table) :
    List Key → Table → Option Table
  | [], table => change table
  | key :: path, table => do
    match table.get? key with
    | none =>
      let inner ← changeBelow made change path ⟨made, []⟩
      return table.set key (.table inner.origin inner.entries)
    | some (.table origin entries) =>
      if origin = .closed || (made = .dotted && origin = .written) then none
      else
        let inner ← changeBelow made change path ⟨origin, entries⟩
        return table.set key (.table inner.origin inner.entries)
    | some (.tables (last :: earlier)) =>
      let inner ← changeBelow made change path ⟨.written, last⟩
      return table.set key (.tables (inner.entries :: earlier))
    | some _ => none

/-- Adds an entry whose key may be dotted. -/
def addPair (path : List Key) (key : Key) (value : Value) (table : Table) : Option Table :=
  changeBelow .dotted
    (fun parent =>
      if (parent.origin = .dotted) = path.isEmpty then none
      else if (parent.get? key).isSome then none
      else some (parent.set key value))
    path table

/-- Opens a table by its header: it is new, or so far only implied. -/
def openTable (path : List Key) (key : Key) (table : Table) : Option Table :=
  changeBelow .implied
    (fun parent =>
      match parent.get? key with
      | none => some (parent.set key (.table .written []))
      | some (.table .implied entries) => some (parent.set key (.table .written entries))
      | some _ => none)
    path table

/-- Opens a further element of a list of tables by its header. -/
def openElement (path : List Key) (key : Key) (table : Table) : Option Table :=
  changeBelow .implied
    (fun parent =>
      match parent.get? key with
      | none => some (parent.set key (.tables [[]]))
      | some (.tables earlier) => some (parent.set key (.tables ([] :: earlier)))
      | some _ => none)
    path table

end Table
end ReleasePacker.Toml
