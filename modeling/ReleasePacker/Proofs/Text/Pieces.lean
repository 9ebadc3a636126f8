import Mathlib.Data.List.Basic
import Mathlib.Tactic.Common
import ReleasePacker.Text.Lines

/-!
# Pieces of a text

Cutting a text at a separator is what the library calls splitting, so the pieces of a longer text
follow from those of its parts. Lines are pieces too, and the first one does not depend on what
comes after its end.
-/

namespace ReleasePacker.Text

variable {α : Type} [DecidableEq α] {separator : α}

/-- Texts are cut as the library cuts lists. -/
theorem splitAt_eq_splitOn (list : List α) : splitAt separator list = list.splitOn separator := by
  -- What is unfinished is put in front of the first of the pieces to come.
  have cut (state : List α × List (List α)) :
      ((list.foldl (splitAt.step separator) state).1.reverse ::
        (list.foldl (splitAt.step separator) state).2).reverse =
          state.2.reverse ++ List.splitOnPPrepend (· == separator) list state.1 := by
    induction list generalizing state with
    | nil => simp [List.splitOnPPrepend]
    | cons x rest ih =>
      rw [List.foldl_cons, ih, splitAt.step, List.splitOnPPrepend]
      by_cases same : x = separator <;> simp [same]
  exact cut ([], [])

theorem splitAt_append_cons (separator : α) (front back : List α) :
    splitAt separator (front ++ separator :: back) =
      splitAt separator front ++ splitAt separator back := by
  simp only [splitAt_eq_splitOn, List.splitOn_append_cons_self]

/-- Text without a separator is one piece. -/
theorem splitAt_of_notMem {list : List α} (absent : separator ∉ list) :
    splitAt separator list = [list] := by
  rw [splitAt_eq_splitOn, List.splitOn_eq_singleton absent]

/-- There is always a piece, if only an empty one. -/
theorem splitAt_ne_nil (separator : α) (list : List α) : splitAt separator list ≠ [] := by
  rw [splitAt_eq_splitOn]
  exact List.splitOn_ne_nil separator list

/-- Different texts have different pieces. -/
theorem splitAt_injective : Function.Injective (splitAt separator : List α → List (List α)) := by
  intro list other same
  rw [splitAt_eq_splitOn, splitAt_eq_splitOn] at same
  calc list = [separator].intercalate (list.splitOn separator) :=
        (List.intercalate_splitOn separator).symm
    _ = other := by rw [same, List.intercalate_splitOn]

/-- Text without a separator goes on with the last piece. -/
theorem exists_splitAt_append (separator : α) (front : List α) {back : List α}
    (absent : separator ∉ back) :
    ∃ init piece, splitAt separator front = init ++ [piece] ∧
      splitAt separator (front ++ back) = init ++ [piece ++ back] := by
  induction front with
  | nil => exact ⟨[], [], rfl, splitAt_of_notMem absent⟩
  | cons x rest ih =>
    obtain ⟨init, piece, alone, joined⟩ := ih
    simp only [splitAt_eq_splitOn, List.cons_append, List.splitOn_cons_eq_if_modifyHead] at *
    rw [alone, joined]
    split
    · exact ⟨[] :: init, piece, rfl, rfl⟩
    · cases init with
      | nil => exact ⟨[], x :: piece, rfl, rfl⟩
      | cons first init => exact ⟨(x :: first) :: init, piece, rfl, rfl⟩

/-- Pieces without a separator that are put together with one are cut apart again. -/
theorem splitAt_intercalate {pieces : List (List α)} (some : pieces ≠ [])
    (uncut : ∀ piece ∈ pieces, separator ∉ piece) :
    splitAt separator ([separator].intercalate pieces) = pieces := by
  rw [splitAt_eq_splitOn, List.splitOn_intercalate separator uncut some]

/-- The pieces hold all but the separators. -/
theorem flatten_splitAt (separator : α) (list : List α) :
    (splitAt separator list).flatten = list.filter fun x => x ≠ separator := by
  rw [splitAt_eq_splitOn]
  induction list with
  | nil => rfl
  | cons x rest ih =>
    rw [List.splitOn_cons_eq_if_modifyHead]
    obtain ⟨first, others, pieces⟩ :=
      List.exists_cons_of_ne_nil (List.splitOn_ne_nil separator rest)
    rw [pieces, List.flatten_cons] at ih
    rw [pieces]
    by_cases same : x = separator <;> simpa [same] using ih

theorem exists_mem_splitAt {list : List α} {x : α} :
    (∃ piece ∈ splitAt separator list, x ∈ piece) ↔ x ∈ list ∧ x ≠ separator := by
  rw [← List.mem_flatten, flatten_splitAt, List.mem_filter, decide_eq_true_eq]

/-- No piece contains a separator. -/
theorem notMem_of_mem_splitAt {list piece : List α} (member : piece ∈ splitAt separator list) :
    separator ∉ piece :=
  fun inside => (exists_mem_splitAt.mp ⟨piece, member, inside⟩).2 rfl

/-! ## The first line -/

/-- Text without a line end is one line, and an empty text has none. -/
theorem firstLine_of_notMem {line : List Char} (absent : '\n' ∉ line) : firstLine line = line := by
  rw [firstLine, linesOf, splitAt_of_notMem absent]
  cases line <;> rfl

/-- Nothing that comes after a line end belongs to the first line. -/
theorem firstLine_append_cons {line : List Char} (absent : '\n' ∉ line) (rest : List Char) :
    firstLine (line ++ '\n' :: rest) = dropReturn line := by
  obtain ⟨ended, last, cut⟩ :=
    (List.eq_nil_or_concat _).resolve_left (splitAt_ne_nil '\n' rest)
  rw [firstLine, linesOf, splitAt_append_cons, splitAt_of_notMem absent, cut]
  simp

end ReleasePacker.Text
