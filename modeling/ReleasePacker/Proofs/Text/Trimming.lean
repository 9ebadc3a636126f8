import Mathlib.Data.List.DropRight
import ReleasePacker.Text.Blank
import ReleasePacker.Text.Lines

/-!
# Trimming

Every text is some blanks, a text that neither begins nor ends with a blank, and blanks again. The
text in the middle is the only one of its kind, and it is what trimming leaves. So blanks around a
text are of no account to whoever trims it, among them a carriage return that was left at the end of
a line.
-/

namespace ReleasePacker.Text

variable {chars core : List Char}

/-- The text in the middle stands in the whole text with nothing but blanks around it. -/
def IsPadded (core chars : List Char) : Prop :=
  ∃ front back, chars = front ++ core ++ back ∧ (∀ c ∈ front, isBlank c = true) ∧
    ∀ c ∈ back, isBlank c = true

/-- A text that neither begins nor ends with a blank. -/
def IsTrimmed (chars : List Char) : Prop :=
  ∀ nonempty : chars ≠ [],
    isBlank (chars.head nonempty) = false ∧ isBlank (chars.getLast nonempty) = false

/-- Members are dropped from the end as the library does. -/
theorem dropWhileEnd_eq_rdropWhile {α : Type} (test : α → Bool) (list : List α) :
    dropWhileEnd test list = list.rdropWhile test := rfl

theorem isPadded_refl (chars : List Char) : IsPadded chars chars :=
  ⟨[], [], by simp, nofun, nofun⟩

/-- Blanks around a text do not matter. -/
theorem IsPadded.trimChars_eq (padded : IsPadded core chars) :
    trimChars chars = trimChars core := by
  obtain ⟨front, back, rfl, before, behind⟩ := padded
  rw [trimChars, trimChars, List.append_assoc, List.dropWhile_append_of_pos before,
    List.dropWhile_append]
  split
  next empty =>
    rw [List.isEmpty_iff.mp empty, List.dropWhile_eq_nil_iff.mpr behind]
  next =>
    have behind' : ∀ c ∈ back.reverse, isBlank c = true := fun c inside =>
      behind c (List.mem_reverse.mp inside)
    rw [dropWhileEnd, List.reverse_append, List.dropWhile_append_of_pos behind', dropWhileEnd]

/-- What is trimmed off is blank. -/
theorem isPadded_trimChars (chars : List Char) : IsPadded (trimChars chars) chars := by
  refine ⟨chars.takeWhile isBlank, (chars.dropWhile isBlank).rtakeWhile isBlank, ?_,
    fun _ => List.mem_takeWhile_imp, fun _ => List.mem_rtakeWhile_imp⟩
  rw [trimChars, dropWhileEnd_eq_rdropWhile, List.append_assoc, List.rdropWhile_append_rtakeWhile,
    List.takeWhile_append_dropWhile]

theorem isTrimmed_trimChars (chars : List Char) : IsTrimmed (trimChars chars) := by
  intro nonempty
  constructor
  -- What is dropped from the end leaves the first character as it is.
  · have kept : trimChars chars <+: chars.dropWhile isBlank := List.rdropWhile_prefix isBlank _
    have first := List.dropWhile_eq_self_iff.mp (List.dropWhile_idempotent isBlank chars)
    rw [Bool.eq_false_iff, List.head_eq_getElem_zero, kept.getElem]
    exact first _
  · exact Bool.eq_false_iff.mpr (List.rdropWhile_last_not isBlank _ nonempty)

theorem IsTrimmed.trimChars_eq (trimmed : IsTrimmed chars) : trimChars chars = chars := by
  have front : chars.dropWhile isBlank = chars := by
    refine List.dropWhile_eq_self_iff.mpr fun some => ?_
    have nonempty := List.ne_nil_of_length_pos some
    rw [← List.head_eq_getElem_zero nonempty, (trimmed nonempty).1]
    exact Bool.false_ne_true
  rw [trimChars, front, dropWhileEnd_eq_rdropWhile]
  exact List.rdropWhile_eq_self_iff.mpr fun nonempty => Bool.eq_false_iff.mp (trimmed nonempty).2

/-- Trimming finds the one text without blanks at its ends. -/
theorem trimChars_eq_iff : trimChars chars = core ↔ IsTrimmed core ∧ IsPadded core chars := by
  constructor
  · rintro rfl
    exact ⟨isTrimmed_trimChars chars, isPadded_trimChars chars⟩
  · rintro ⟨trimmed, padded⟩
    rw [padded.trimChars_eq, trimmed.trimChars_eq]

theorem isTrimmed_of_visible (visible : ∀ c ∈ chars, isBlank c = false) : IsTrimmed chars :=
  fun _ => ⟨visible _ (List.head_mem _), visible _ (List.getLast_mem _)⟩

@[simp] theorem toList_trim (text : String) : (trim text).toList = trimChars text.toList :=
  String.toList_ofList

/-- A carriage return at the end of a line is a blank like others. -/
theorem isPadded_dropReturn (line : List Char) : IsPadded (dropReturn line) line := by
  rw [dropReturn]
  split
  next rest reversed =>
    refine ⟨[], ['\r'], ?_, nofun, List.forall_mem_singleton.mpr (by decide)⟩
    rw [List.nil_append, ← List.reverse_reverse line, reversed, List.reverse_cons]
  next => exact isPadded_refl line

end ReleasePacker.Text
