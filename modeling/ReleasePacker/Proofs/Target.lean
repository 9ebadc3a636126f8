import ReleasePacker.Proofs.Text.Pieces
import ReleasePacker.Target.Host

/-!
# Which texts are triples

A triple is made of three components or more, with hyphens between them. A text is checked against
four rules, one after another, and it breaks none of them just if it is a triple. Two of the rules
are about the pieces between the hyphens, which every text has, and only one row of them.
-/

namespace ReleasePacker

/-- The rules in the order in which they are checked. -/
def TripleFault.inOrder : List TripleFault :=
  [.empty, .forbiddenCharacter, .tooFewComponents, .emptyComponent]

namespace TargetTriple

variable {text : String} {fault : TripleFault}

/-- A letter or a digit of ASCII, an underscore or a dot. -/
def IsPlain (c : Char) : Prop := c.isAlphanum ∨ c = '_' ∨ c = '.'

/-- A component of a triple. -/
structure IsComponent (component : String) : Prop where
  nonempty : component ≠ ""
  plain : ∀ c ∈ component.toList, IsPlain c

/-- The text is made of three components or more, with hyphens between them. -/
def IsTriple (text : String) : Prop :=
  ∃ components : List String, 3 ≤ components.length ∧ (∀ c ∈ components, IsComponent c) ∧
    Text.joinWith "-" components = text

/-- The text is made of these pieces, with all its hyphens between them. -/
structure ArePiecesOf (pieces : List String) (text : String) : Prop where
  joined : Text.joinWith "-" pieces = text
  nonempty : pieces ≠ []
  uncut : ∀ piece ∈ pieces, '-' ∉ piece.toList

/-- A text breaks a rule. -/
inductive Breaks (text : String) : TripleFault → Prop
  | empty (nothing : text = "") : Breaks text .empty
  | forbiddenCharacter {c : Char} (member : c ∈ text.toList) (notPlain : ¬ IsPlain c)
    (noHyphen : c ≠ '-') : Breaks text .forbiddenCharacter
  | tooFewComponents {pieces : List String} (cut : ArePiecesOf pieces text)
    (few : pieces.length < 3) : Breaks text .tooFewComponents
  | emptyComponent {pieces : List String} (cut : ArePiecesOf pieces text) (member : "" ∈ pieces) :
    Breaks text .emptyComponent

/-- A text breaks a rule and none of those that are checked before it. -/
def BreaksFirst (text : String) (fault : TripleFault) : Prop :=
  ∃ before after, TripleFault.inOrder = before ++ fault :: after ∧ Breaks text fault ∧
    ∀ earlier ∈ before, ¬ Breaks text earlier

/-! ## Characters and pieces -/

theorem isComponentChar_iff {c : Char} : isComponentChar c = true ↔ IsPlain c := by
  have alphanum : c.isAlphanum ↔
      (('A' ≤ c ∧ c ≤ 'Z') ∨ ('a' ≤ c ∧ c ≤ 'z')) ∨ ('0' ≤ c ∧ c ≤ '9') := by
    change ((decide ('A'.val ≤ c.val ∧ c.val ≤ 'Z'.val) || 'a'.val ≤ c.val && c.val ≤ 'z'.val) ||
      '0'.val ≤ c.val && c.val ≤ '9'.val) = true ↔ _
    simp only [Char.le_def, Bool.or_eq_true, Bool.and_eq_true, decide_eq_true_eq]
  simp only [isComponentChar, IsPlain, alphanum, Bool.or_eq_true, Bool.and_eq_true,
    decide_eq_true_eq]
  tauto

theorem not_isPlain_hyphen : ¬ IsPlain '-' := by
  rw [← isComponentChar_iff]
  decide

/-- Every text has one row of pieces, those that it is cut into. -/
theorem arePiecesOf_iff {pieces : List String} :
    ArePiecesOf pieces text ↔ pieces.map String.toList = componentsOf text := by
  constructor
  · rintro ⟨rfl, nonempty, uncut⟩
    rw [componentsOf, Text.joinWith, String.toList_intercalate]
    exact (Text.splitAt_intercalate (by simpa using nonempty) (by simpa using uncut)).symm
  · intro same
    refine ⟨String.toList_inj.mp ?_, ?_, fun piece member => ?_⟩
    · rw [Text.joinWith, String.toList_intercalate, same, componentsOf, Text.splitAt_eq_splitOn]
      exact List.intercalate_splitOn '-'
    · rintro rfl
      exact Text.splitAt_ne_nil '-' text.toList same.symm
    · have inside : piece.toList ∈ componentsOf text := same ▸ List.mem_map_of_mem member
      exact Text.notMem_of_mem_splitAt inside

theorem arePiecesOf_componentsOf (text : String) :
    ArePiecesOf ((componentsOf text).map String.ofList) text := by
  rw [arePiecesOf_iff, List.map_map]
  simp [Function.comp_def]

theorem ArePiecesOf.unique {pieces other : List String} (cut : ArePiecesOf pieces text)
    (otherCut : ArePiecesOf other text) : pieces = other :=
  List.map_injective_iff.mpr (fun _ _ => String.toList_inj.mp)
    ((arePiecesOf_iff.mp cut).trans (arePiecesOf_iff.mp otherCut).symm)

/-! ## The rules one by one -/

theorem breaks_empty : Breaks text .empty ↔ text.toList.isEmpty = true := by
  rw [List.isEmpty_iff, String.toList_eq_nil_iff]
  constructor
  · rintro ⟨⟩
    assumption
  · exact .empty

theorem breaks_forbiddenCharacter : Breaks text .forbiddenCharacter ↔
    (text.toList.any fun c => !(isComponentChar c || c = '-')) = true := by
  simp only [List.any_eq_true, Bool.not_eq_true', ← Bool.not_eq_true, Bool.or_eq_true,
    decide_eq_true_eq, not_or, isComponentChar_iff]
  constructor
  · rintro (_ | ⟨member, notPlain, noHyphen⟩)
    exact ⟨_, member, notPlain, noHyphen⟩
  · rintro ⟨c, member, notPlain, noHyphen⟩
    exact .forbiddenCharacter member notPlain noHyphen

theorem breaks_tooFewComponents :
    Breaks text .tooFewComponents ↔ (componentsOf text).length < 3 := by
  constructor
  · rintro (_ | _ | ⟨cut, few⟩)
    rwa [← arePiecesOf_iff.mp cut, List.length_map]
  · intro few
    exact .tooFewComponents (arePiecesOf_componentsOf text) (by rwa [List.length_map])

theorem breaks_emptyComponent :
    Breaks text .emptyComponent ↔ (componentsOf text).any List.isEmpty = true := by
  simp only [List.any_eq_true, List.isEmpty_iff, exists_eq_right]
  constructor
  · rintro (_ | _ | _ | ⟨cut, member⟩)
    rw [← arePiecesOf_iff.mp cut]
    exact List.mem_map.mpr ⟨"", member, rfl⟩
  · intro member
    exact .emptyComponent (arePiecesOf_componentsOf text) (List.mem_map.mpr ⟨[], member, rfl⟩)

instance (text : String) : DecidablePred (Breaks text)
  | .empty => decidable_of_iff _ breaks_empty.symm
  | .forbiddenCharacter => decidable_of_iff _ breaks_forbiddenCharacter.symm
  | .tooFewComponents => decidable_of_iff _ breaks_tooFewComponents.symm
  | .emptyComponent => decidable_of_iff _ breaks_emptyComponent.symm

/-! ## The rules together -/

theorem faultOf_eq_find? (text : String) :
    faultOf text = TripleFault.inOrder.find? fun fault => Breaks text fault := by
  rw [faultOf, TripleFault.inOrder]
  split_ifs with empty forbidden few missing <;>
    simp only [List.find?_cons, List.find?_nil, breaks_empty, breaks_forbiddenCharacter,
      breaks_tooFewComponents, breaks_emptyComponent, *, decide_true, decide_false,
      Bool.false_eq_true]

/-- The check finds the first rule that a text breaks. -/
theorem faultOf_eq_some : faultOf text = some fault ↔ BreaksFirst text fault := by
  simp only [faultOf_eq_find?, List.find?_eq_some_iff_append, BreaksFirst, decide_eq_true_eq,
    Bool.not_eq_true', decide_eq_false_iff_not]
  tauto

theorem faultOf_eq_none_iff_forall : faultOf text = none ↔ ∀ fault, ¬ Breaks text fault := by
  rw [faultOf_eq_find?, List.find?_eq_none]
  simp only [decide_eq_true_eq]
  refine ⟨fun kept fault => kept fault ?_, fun kept fault _ => kept fault⟩
  cases fault <;> decide

/-- A text breaks no rule exactly if it is a triple. -/
theorem faultOf_eq_none : faultOf text = none ↔ IsTriple text := by
  rw [faultOf_eq_none_iff_forall]
  constructor
  · intro kept
    have cut := arePiecesOf_componentsOf text
    refine ⟨_, ?_, fun piece member => ⟨?_, fun c inside => ?_⟩, cut.joined⟩
    · exact Nat.not_lt.mp fun few => kept _ (.tooFewComponents cut few)
    · rintro rfl
      exact kept _ (.emptyComponent cut member)
    · obtain ⟨chars, whole, rfl⟩ := List.mem_map.mp member
      rw [String.toList_ofList] at inside
      obtain ⟨inText, noHyphen⟩ := Text.exists_mem_splitAt.mp ⟨chars, whole, inside⟩
      by_contra notPlain
      exact kept _ (.forbiddenCharacter inText notPlain noHyphen)
  · rintro ⟨components, many, all, joined⟩ fault broken
    -- Components have no hyphens, so they are the pieces.
    have cut : ArePiecesOf components text :=
      ⟨joined, by rintro rfl; simp at many,
        fun piece member hyphen => not_isPlain_hyphen ((all piece member).plain _ hyphen)⟩
    cases broken with
    | empty nothing =>
      subst nothing
      rw [cut.unique (arePiecesOf_componentsOf "")] at many
      exact absurd many (by decide)
    | forbiddenCharacter member notPlain noHyphen =>
      obtain ⟨chars, whole, inside⟩ := Text.exists_mem_splitAt.mpr ⟨member, noHyphen⟩
      rw [← componentsOf, ← arePiecesOf_iff.mp cut] at whole
      obtain ⟨component, among, rfl⟩ := List.mem_map.mp whole
      exact notPlain ((all component among).plain _ inside)
    | tooFewComponents other few =>
      rw [other.unique cut] at few
      omega
    | emptyComponent other member =>
      rw [other.unique cut] at member
      exact (all "" member).nonempty rfl

/-! ## Targets -/

theorem ofText_of_none (kept : faultOf text = none) : ofText text = .ok ⟨text, kept⟩ := by
  rw [ofText]
  split
  next found broken => cases kept.symm.trans broken
  next => rfl

theorem ofText_of_some (broken : faultOf text = some fault) : ofText text = .error fault := by
  rw [ofText]
  split
  next found same =>
    cases broken.symm.trans same
    rfl
  next kept => cases broken.symm.trans kept

theorem parseTarget_of_none (kept : faultOf text = none) :
    parseTarget text = .ok ⟨text, kept⟩ := by
  rw [parseTarget, ofText_of_none kept]

theorem parseTarget_of_some (broken : faultOf text = some fault) :
    parseTarget text = .error (.invalidTarget text fault.message) := by
  rw [parseTarget, ofText_of_some broken]

theorem parseTarget_eq_ok {triple : TargetTriple} :
    parseTarget text = .ok triple ↔ IsTriple text ∧ triple.text = text := by
  rw [← faultOf_eq_none]
  cases found : faultOf text with
  | some fault => simp [parseTarget_of_some found]
  | none =>
    obtain ⟨whole, kept⟩ := triple
    simp [parseTarget_of_none found, eq_comm]

theorem parseTarget_eq_error {error : ReleaseError} : parseTarget text = .error error ↔
    ∃ fault, BreaksFirst text fault ∧ error = .invalidTarget text fault.message := by
  simp only [← faultOf_eq_some]
  cases found : faultOf text with
  | some fault => simp [parseTarget_of_some found, eq_comm]
  | none => simp [parseTarget_of_none found]

/-- A text gives a target exactly if it is a triple, and the target keeps the text as it is. Of any
other text it is said, in one of four sentences, which rule it breaks first. A text that is a part
of a longer one is treated in the same way, and so is one that is asked for, whatever the host is. -/
theorem parseTarget_decides (text : String) :
    ((∃ triple, parseTarget text = .ok triple) ↔ IsTriple text) ∧
    (∀ triple, parseTarget text = .ok triple ↔ IsTriple text ∧ triple.text = text) ∧
    (∀ error, parseTarget text = .error error ↔
      (BreaksFirst text .empty ∧ error = .invalidTarget text "triple is empty") ∨
      (BreaksFirst text .forbiddenCharacter ∧ error = .invalidTarget text
        "only ASCII letters, digits, '_', '.' and '-' are allowed") ∨
      (BreaksFirst text .tooFewComponents ∧ error = .invalidTarget text
        "expected at least \x7barch\x7d-\x7bvendor\x7d-\x7bos\x7d") ∨
      (BreaksFirst text .emptyComponent ∧
        error = .invalidTarget text "triple contains an empty component")) ∧
    parseTargetSlice text.toSlice = parseTarget text ∧
    ∀ host, resolveTarget (some text) host = parseTarget text := by
  refine ⟨?_, fun _ => parseTarget_eq_ok, fun error => ?_, ?_, fun _ => rfl⟩
  · constructor
    · rintro ⟨triple, parsed⟩
      exact (parseTarget_eq_ok.mp parsed).1
    · intro isTriple
      exact ⟨_, parseTarget_of_none (faultOf_eq_none.mpr isTriple)⟩
  · rw [parseTarget_eq_error]
    constructor
    · rintro ⟨fault, first, rfl⟩
      cases fault with
      | empty => exact .inl ⟨first, rfl⟩
      | forbiddenCharacter => exact .inr (.inl ⟨first, rfl⟩)
      | tooFewComponents => exact .inr (.inr (.inl ⟨first, rfl⟩))
      | emptyComponent => exact .inr (.inr (.inr ⟨first, rfl⟩))
    · rintro (⟨first, rfl⟩ | ⟨first, rfl⟩ | ⟨first, rfl⟩ | ⟨first, rfl⟩) <;> exact ⟨_, first, rfl⟩
  · rw [parseTargetSlice, String.copy_toSlice]

end TargetTriple
end ReleasePacker
