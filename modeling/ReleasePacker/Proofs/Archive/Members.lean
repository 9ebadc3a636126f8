import ReleasePacker.Archive.Extract
import ReleasePacker.Proofs.FileSystem.Components
import ReleasePacker.Proofs.Text.Separators

/-!
# Which member is extracted

The name of a member is bytes of any kind. Whether it leads out of the archive and which file name
it ends in are said here of its bytes, cut at the separators, without the text and the components
that the search makes of them. The search then comes to what the list of members as a whole says:
the first member that leads out, among those up to the first regular file of the name, or else that
file.
-/

namespace ReleasePacker

namespace Utf8

/-- Only plain text is decoded to plain text. -/
theorem decodeLossy_eq_plain (text : Bytes) (plain : ∀ byte ∈ text, IsPlain byte) {bytes : Bytes} :
    decodeLossy bytes = String.ofList (text.map plainChar) ↔ bytes = text := by
  rw [decodeLossy, String.ofList_inj, decodeLossyChars_eq_plain plain]

theorem isPlain_dot : IsPlain 0x2E := by decide

theorem decodeLossy_eq_empty {bytes : Bytes} : decodeLossy bytes = "" ↔ bytes = [] :=
  decodeLossy_eq_plain [] (List.forall_mem_nil _)

theorem decodeLossy_eq_dot {bytes : Bytes} : decodeLossy bytes = "." ↔ bytes = [0x2E] :=
  decodeLossy_eq_plain [0x2E] (List.forall_mem_singleton.mpr isPlain_dot)

theorem decodeLossy_eq_dots {bytes : Bytes} : decodeLossy bytes = ".." ↔ bytes = [0x2E, 0x2E] :=
  decodeLossy_eq_plain [0x2E, 0x2E]
    (List.forall_mem_cons.mpr ⟨isPlain_dot, List.forall_mem_singleton.mpr isPlain_dot⟩)

theorem encode_injective : Function.Injective encode := fun text other same => by
  rw [← decodeLossy_encode text, same, decodeLossy_encode]

/-- A separator in a text is one in its bytes. -/
theorem separator_mem_encode {text : String} (inside : '/' ∈ text.toList) : 0x2F ∈ encode text :=
  List.mem_flatMap.mpr ⟨'/', inside, List.mem_singleton_self _⟩

end Utf8

namespace Tar

namespace Entry

/-- The bytes between the separators of the name. -/
def pieces (entry : Entry) : List Bytes := Text.splitAt 0x2F entry.name

/-- A piece that asks for nothing: it is empty or `.`. -/
def IsIdle (piece : Bytes) : Prop := piece = [] ∨ piece = [0x2E]

instance (piece : Bytes) : Decidable (IsIdle piece) := inferInstanceAs (Decidable (_ ∨ _))

/-- The name is absolute, or goes to the folder above somewhere. -/
def LeadsOut (entry : Entry) : Prop :=
  entry.name.head? = some 0x2F ∨ [0x2E, 0x2E] ∈ entry.pieces

instance (entry : Entry) : Decidable entry.LeadsOut := inferInstanceAs (Decidable (_ ∨ _))

/-- The name ends in a file name, behind which only idle pieces stand. -/
def EndsIn (entry : Entry) (name : String) : Prop :=
  Path.IsName name ∧ ∃ front back, entry.pieces = front ++ Utf8.encode name :: back ∧
    ∀ piece ∈ back, IsIdle piece

/-- A regular file whose name ends in a file name. -/
def IsWanted (name : String) (entry : Entry) : Prop :=
  (entry.flag = 0x30 ∨ entry.flag = 0) ∧ entry.EndsIn name

variable {entry : Entry} {name : String}

/-! ## The path of a member -/

theorem isPlain_separator : Utf8.IsPlain 0x2F := by
  decide

theorem pieces_path (entry : Entry) : entry.path.pieces = entry.pieces.map Utf8.decodeLossy := by
  have cut := Utf8.splitAt_decodeLossyChars isPlain_separator entry.name
  rw [Path.pieces, path, Utf8.decodeLossy, String.toList_ofList]
  change (Text.splitAt (Utf8.plainChar 0x2F) _).map _ = _
  rw [cut, List.map_map]
  rfl

theorem isAbsolute_path : entry.path.isAbsolute = true ↔ entry.name.head? = some 0x2F := by
  rw [Path.isAbsolute, path, Utf8.decodeLossy, String.toList_ofList, decide_eq_true_eq]
  exact Utf8.head?_decodeLossyChars isPlain_separator entry.name

theorem componentOf_eq_none {piece : Bytes} :
    Path.componentOf (Utf8.decodeLossy piece) = none ↔ IsIdle piece := by
  rw [Path.componentOf_eq_none, Utf8.decodeLossy_eq_empty, Utf8.decodeLossy_eq_dot, IsIdle]

theorem componentOf_eq_parent {piece : Bytes} :
    Path.componentOf (Utf8.decodeLossy piece) = some .parent ↔ piece = [0x2E, 0x2E] := by
  rw [Path.componentOf_eq_parent, Utf8.decodeLossy_eq_dots]

/-- The components of the pieces; in front of them there may be the root or the current folder. -/
theorem exists_components (entry : Entry) :
    ∃ front, entry.path.components =
        front ++ entry.pieces.filterMap (fun piece => Path.componentOf (Utf8.decodeLossy piece)) ∧
      (front = [.root] ∧ entry.path.isAbsolute = true ∨
        (front = [.current] ∨ front = []) ∧ entry.path.isAbsolute = false) := by
  have steps : entry.path.pieces.filterMap Path.componentOf =
      entry.pieces.filterMap (fun piece => Path.componentOf (Utf8.decodeLossy piece)) := by
    rw [pieces_path, List.filterMap_map]
    rfl
  rw [Path.components, steps]
  split
  next absolute => exact ⟨[.root], rfl, .inl ⟨rfl, absolute⟩⟩
  next relative =>
    rw [Bool.not_eq_true] at relative
    split
    · exact ⟨[.current], rfl, .inr ⟨.inl rfl, relative⟩⟩
    · exact ⟨[], rfl, .inr ⟨.inr rfl, relative⟩⟩

/-- The question about the path is the one about the bytes of the name. -/
theorem climbs_iff : entry.path.climbs = true ↔ entry.LeadsOut := by
  have parent : Component.parent ∈ entry.pieces.filterMap
      (fun piece => Path.componentOf (Utf8.decodeLossy piece)) ↔ [0x2E, 0x2E] ∈ entry.pieces := by
    rw [List.mem_filterMap]
    simp only [componentOf_eq_parent, exists_eq_right]
  have root : Component.root ∉ entry.pieces.filterMap
      (fun piece => Path.componentOf (Utf8.decodeLossy piece)) := by
    rw [List.mem_filterMap]
    rintro ⟨piece, -, same⟩
    rw [Path.componentOf] at same
    split_ifs at same <;> cases same
  have climbs : entry.path.climbs = true ↔
      Component.parent ∈ entry.path.components ∨ Component.root ∈ entry.path.components := by
    simp [Path.climbs, and_or_left, exists_or]
  obtain ⟨front, components, ⟨rfl, absolute⟩ | ⟨other, relative⟩⟩ := entry.exists_components
  · rw [climbs, components]
    exact iff_of_true (.inr List.mem_cons_self) (.inl (isAbsolute_path.mp absolute))
  · have noFront : Component.parent ∉ front ∧ Component.root ∉ front := by
      rcases other with rfl | rfl <;> decide
    have notAbsolute : entry.name.head? ≠ some 0x2F := fun first =>
      Bool.false_ne_true (relative.symm.trans (isAbsolute_path.mpr first))
    rw [climbs, components, List.mem_append, List.mem_append, parent, LeadsOut]
    simp only [noFront, root, notAbsolute, false_or, or_false]

/-! ## The file name of a member -/

/-- All pieces are idle, or there is a last one that is not. -/
theorem exists_last_piece (entry : Entry) :
    (∀ piece ∈ entry.pieces, IsIdle piece) ∨
    ∃ front piece back, entry.pieces = front ++ piece :: back ∧ ¬ IsIdle piece ∧
      ∀ piece ∈ back, IsIdle piece := by
  induction entry.pieces with
  | nil => exact .inl nofun
  | cons first rest ih =>
    rcases ih with idle | ⟨front, piece, back, rfl, telling, idle⟩
    · by_cases same : IsIdle first
      · exact .inl (List.forall_mem_cons.mpr ⟨same, idle⟩)
      · exact .inr ⟨[], first, rest, rfl, same, idle⟩
    · exact .inr ⟨first :: front, piece, back, rfl, telling, idle⟩

section

variable {front back : List Bytes} {piece : Bytes}
  (split : entry.pieces = front ++ piece :: back) (telling : ¬ IsIdle piece)
  (idle : ∀ other ∈ back, IsIdle other)
include split telling idle

theorem lastPiece_eq : entry.lastPiece = piece := by
  have none : back.filter (fun piece => piece ≠ [] && piece ≠ [0x2E]) = [] := by
    rw [List.filter_eq_nil_iff]
    intro other inside
    rcases idle other inside with rfl | rfl <;> decide
  have kept : (piece :: back).filter (fun piece => piece ≠ [] && piece ≠ [0x2E]) = [piece] := by
    rw [IsIdle, not_or] at telling
    rw [List.filter_cons_of_pos (by simp [telling]), none]
  rw [lastPiece, ← pieces, split, List.filter_append, kept, List.getLast?_concat]
  rfl

theorem getLast?_components :
    entry.path.components.getLast? = Path.componentOf (Utf8.decodeLossy piece) := by
  have none : back.filterMap (fun piece => Path.componentOf (Utf8.decodeLossy piece)) = [] := by
    rw [List.filterMap_eq_nil_iff]
    exact fun other inside => componentOf_eq_none.mpr (idle other inside)
  obtain ⟨before, components, -⟩ := entry.exists_components
  rw [components, split, List.filterMap_append, List.filterMap_cons, none]
  cases component : Path.componentOf (Utf8.decodeLossy piece) with
  | none => exact absurd (componentOf_eq_none.mp component) telling
  | some last => rw [← List.append_assoc, List.getLast?_concat]

theorem isSome_fileName : entry.path.fileName.isSome = true ↔ piece ≠ [0x2E, 0x2E] := by
  rw [Path.fileName, getLast?_components split telling idle]
  by_cases dots : piece = [0x2E, 0x2E]
  · rw [componentOf_eq_parent.mpr dots]
    simp [dots]
  · have name := Path.componentOf_of_ne (mt componentOf_eq_none.mp telling)
      (mt Utf8.decodeLossy_eq_dots.mp dots)
    simp [name, dots]

end

/-- Without a piece that is a name there is no file name. -/
theorem fileName_of_idle (idle : ∀ piece ∈ entry.pieces, IsIdle piece) :
    entry.path.fileName = none := by
  have none : entry.pieces.filterMap
      (fun piece => Path.componentOf (Utf8.decodeLossy piece)) = [] := by
    rw [List.filterMap_eq_nil_iff]
    exact fun piece inside => componentOf_eq_none.mpr (idle piece inside)
  obtain ⟨front, components, front'⟩ := entry.exists_components
  rw [Path.fileName, components, none, List.append_nil]
  rcases front' with ⟨rfl, -⟩ | ⟨rfl | rfl, -⟩ <;> rfl

/-- The bytes of a file name are one piece, which is not idle and does not go up. -/
theorem isName_iff {front back : List Bytes}
    (split : entry.pieces = front ++ Utf8.encode name :: back) :
    Path.IsName name ↔ ¬ IsIdle (Utf8.encode name) ∧ Utf8.encode name ≠ [0x2E, 0x2E] := by
  have empty : Utf8.encode name = [] ↔ name = "" := Utf8.encode_injective.eq_iff (b := "")
  have dot : Utf8.encode name = [0x2E] ↔ name = "." := Utf8.encode_injective.eq_iff (b := ".")
  have dots : Utf8.encode name = [0x2E, 0x2E] ↔ name = ".." :=
    Utf8.encode_injective.eq_iff (b := "..")
  rw [IsIdle, not_or, Ne, dots, empty, dot]
  refine ⟨fun plain => ⟨⟨plain.nonempty, plain.notCurrent⟩, plain.notParent⟩,
    fun ⟨⟨nonempty, notCurrent⟩, notParent⟩ => ⟨nonempty, notCurrent, notParent, fun inside => ?_⟩⟩
  have member : Utf8.encode name ∈ Text.splitAt 0x2F entry.name := by
    rw [← pieces, split]
    exact List.mem_append_right _ List.mem_cons_self
  exact Text.notMem_of_mem_splitAt member (Utf8.separator_mem_encode inside)

theorem isNamed_iff : entry.isNamed name = true ↔ entry.EndsIn name := by
  rw [isNamed, Bool.and_eq_true, decide_eq_true_eq]
  constructor
  · rintro ⟨named, last⟩
    rcases entry.exists_last_piece with idle | ⟨front, piece, back, split, telling, idle⟩
    · rw [fileName_of_idle idle] at named
      cases named
    · have stays := (isSome_fileName split telling idle).mp named
      rw [lastPiece_eq split telling idle] at last
      subst last
      exact ⟨(isName_iff split).mpr ⟨telling, stays⟩, front, back, split, idle⟩
  · rintro ⟨plain, front, back, split, idle⟩
    obtain ⟨telling, stays⟩ := (isName_iff split).mp plain
    exact ⟨(isSome_fileName split telling idle).mpr stays, lastPiece_eq split telling idle⟩

theorem isWanted_iff : IsWanted name entry ↔ (entry.isFile && entry.isNamed name) = true := by
  rw [IsWanted, Bool.and_eq_true, isNamed_iff, isFile, Bool.or_eq_true, decide_eq_true_eq,
    decide_eq_true_eq]

instance (name : String) (entry : Entry) : Decidable (IsWanted name entry) :=
  decidable_of_iff _ isWanted_iff.symm

end Entry

/-! ## The search -/

/-- The members that are looked at: those up to the first one that is wanted, or all. -/
def lookedAt (name : String) (entries : List Entry) : List Entry :=
  entries.take (entries.findIdx (fun entry => Entry.IsWanted name entry) + 1)

variable {name : String} {entries : List Entry}

theorem lookedAt_cons (name : String) (entry : Entry) (rest : List Entry) :
    lookedAt name (entry :: rest) =
      entry :: if entry.IsWanted name then [] else lookedAt name rest := by
  rw [lookedAt, List.findIdx_cons]
  by_cases wanted : entry.IsWanted name <;> simp [wanted, lookedAt]

end Tar

/-- The search, told from the whole list. -/
theorem findEntry_eq (name : String) (clean : Bool) (entries : List Tar.Entry) :
    findEntry name clean entries =
      match (Tar.lookedAt name entries).find? (fun entry => entry.LeadsOut),
        entries.find? (fun entry => Tar.Entry.IsWanted name entry) with
      | some out, _ => .error (.pathTraversal out.path.text)
      | none, some found => .ok found
      | none, none => .error (if clean then .entryNotFound name else .io damagedArchive) := by
  induction entries with
  | nil => rfl
  | cons entry rest ih =>
    rw [findEntry, Tar.lookedAt_cons, ih]
    simp only [Tar.Entry.climbs_iff, ← Tar.Entry.isWanted_iff]
    by_cases out : entry.LeadsOut
    · simp [out]
    · by_cases wanted : entry.IsWanted name <;> simp [out, wanted]

/-- What the search comes to is the first member that is wanted. -/
theorem find?_of_findEntry {name : String} {clean : Bool} {entries : List Tar.Entry}
    {found : Tar.Entry} (success : findEntry name clean entries = .ok found) :
    entries.find? (fun entry => Tar.Entry.IsWanted name entry) = some found := by
  rw [findEntry_eq] at success
  split at success
  · cases success
  next first =>
    cases success
    exact first
  · cases success

/-- What stands behind a member at which the search ends has no influence. -/
theorem findEntry_append {name : String} {found : Tar.Entry}
    (ends : found.LeadsOut ∨ found.IsWanted name) (before after after' : List Tar.Entry)
    (clean clean' : Bool) :
    findEntry name clean (before ++ found :: after) =
      findEntry name clean' (before ++ found :: after') := by
  induction before with
  | nil =>
    simp only [List.nil_append, findEntry, Tar.Entry.climbs_iff, ← Tar.Entry.isWanted_iff]
    by_cases out : found.LeadsOut
    · rw [if_pos out, if_pos out]
    · rw [if_neg out, if_neg out, if_pos (ends.resolve_left out), if_pos (ends.resolve_left out)]
  | cons entry rest ih => rw [List.cons_append, List.cons_append, findEntry, findEntry, ih]

end ReleasePacker
