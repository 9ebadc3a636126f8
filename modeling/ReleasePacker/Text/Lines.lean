/-!
# Lines and fields

Cutting text at separators and putting it together again.
-/

namespace ReleasePacker.Text

/-- The pieces between the occurrences of a separator: one more piece than there are
separators. -/
def splitAt {α : Type} [DecidableEq α] (separator : α) (list : List α) : List (List α) :=
  let (last, before) := list.foldl step ([], [])
  (last.reverse :: before).reverse
where
  /-- The unfinished piece, last member first, and the finished pieces, last first. -/
  step (state : List α × List (List α)) (x : α) : List α × List (List α) :=
    if x = separator then ([], state.1.reverse :: state.2) else (x :: state.1, state.2)

/-- The line without one carriage return at its end. -/
def dropReturn (line : List Char) : List Char :=
  match line.reverse with
  | '\r' :: rest => rest.reverse
  | _ => line

/-- The lines of a text. A line ends at a line feed, and one carriage return before the line
feed belongs to the line end; text after the last line feed is a line unless it is empty. -/
def linesOf (chars : List Char) : List (List Char) :=
  match (splitAt '\n' chars).reverse with
  | [] => []
  | last :: ended =>
    (ended.map dropReturn).reverse ++ (if last.isEmpty then [] else [last])

/-- The lines of a text, see `linesOf`. -/
def lines (text : String) : List String :=
  (linesOf text.toList).map String.ofList

/-- The first line of a text, empty if there is none. -/
def firstLine (chars : List Char) : List Char :=
  (linesOf chars).headD []

/-- The pieces with a separator between each two neighbours. -/
def joinWith (separator : String) (pieces : List String) : String :=
  String.intercalate separator pieces

end ReleasePacker.Text
