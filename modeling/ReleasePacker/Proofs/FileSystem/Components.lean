import ReleasePacker.Proofs.FileSystem.Paths

/-!
# Paths as components

The components of a path say where it leads without regard to how it is written. Joining a text that
stands for a component adds that component at the end, and the parent of the joined path is the
first path again, up to the way it is written.
-/

namespace ReleasePacker.Path

/-! ## What a piece stands for -/

theorem componentOf_eq_none {piece : String} :
    componentOf piece = none ↔ piece = "" ∨ piece = "." := by
  rw [componentOf]
  split_ifs with idle <;> simpa using idle

theorem componentOf_eq_parent {piece : String} :
    componentOf piece = some .parent ↔ piece = ".." := by
  rw [componentOf]
  split_ifs with idle up
  · rw [Bool.or_eq_true, decide_eq_true_eq, decide_eq_true_eq] at idle
    rcases idle with rfl | rfl <;> decide
  · exact iff_of_true rfl up
  · simp only [Option.some.injEq, reduceCtorEq, up]

/-- What is neither left out nor goes up is a name. -/
theorem componentOf_of_ne {piece : String} (stays : componentOf piece ≠ none)
    (notParent : piece ≠ "..") : componentOf piece = some (.name piece) := by
  rw [componentOf] at stays ⊢
  split_ifs at stays ⊢
  · exact absurd rfl stays
  · rfl

theorem componentText_of_componentOf {piece : String} {component : Component}
    (stands : componentOf piece = some component) : componentText component = piece := by
  rw [componentOf] at stands
  split at stands
  · cases stands
  · split at stands
    next parent =>
      cases stands
      exact parent.symm
    · cases stands
      rfl

theorem IsName.componentOf {name : String} (plain : IsName name) :
    componentOf name = some (.name name) := by
  rw [Path.componentOf, if_neg (by simp [plain.nonempty, plain.notCurrent]),
    if_neg plain.notParent]

/-- A path whose last piece is a name ends in this name. -/
theorem fileName_of_pieces {path : Path} {init : List String} {piece : String}
    (pieces : path.pieces = init ++ [piece]) (named : componentOf piece = some (.name piece)) :
    path.fileName = some piece := by
  rw [fileName_eq_some, innerComponents, pieces, List.filterMap_append, List.filterMap_cons, named,
    List.filterMap_nil, List.getLast?_concat]

/-! ## Joining -/

/-- A joined path has one more component. -/
theorem components_join (base : Path) {piece : String} {component : Component}
    (noSeparator : '/' ∉ piece.toList) (stands : componentOf piece = some component) :
    (base / piece).components = base.components ++ [component] := by
  obtain ⟨init, pieces, before⟩ := base.exists_pieces_join noSeparator
  have visible : piece ≠ "" ∧ piece ≠ "." := by
    constructor <;> rintro rfl <;> cases stands
  -- An empty piece at the end of the first path is no current folder in front.
  have front : (init ++ [piece]).head? = some "." ↔ base.pieces.head? = some "." := by
    cases init with
    | nil => rcases before with before | before <;> simp [before, visible.2]
    | cons first rest => rcases before with before | before <;> simp [before]
  have inner : (base / piece).innerComponents = base.innerComponents ++ [component] := by
    refine (base.innerComponents_join (isAbsolute_of_notMem noSeparator)).trans (congrArg _ ?_)
    rw [innerComponents, pieces_of_notMem noSeparator, List.filterMap_cons, stands,
      List.filterMap_nil]
  rw [components, components, isAbsolute_join base noSeparator, ← innerComponents,
    ← innerComponents, inner, pieces]
  simp only [front]
  split
  · rfl
  · split <;> rfl

theorem components_join_name (base : Path) {name : String} (plain : IsName name) :
    (base / name).components = base.components ++ [.name name] :=
  components_join base plain.noSeparator plain.componentOf

theorem fileName_join (base : Path) {name : String} (plain : IsName name) :
    (base / name).fileName = some name := by
  rw [fileName, components_join_name base plain, List.getLast?_concat]

/-! ## Paths that go nowhere -/

/-- A relative path goes nowhere if it is made of separators and current folders alone. -/
def Rests (path : Path) : Prop :=
  path.isAbsolute = false ∧ ∀ piece ∈ path.pieces, piece = "" ∨ piece = "."

instance (path : Path) : Decidable path.Rests := inferInstanceAs (Decidable (_ ∧ _))

theorem innerComponents_eq_nil {path : Path} :
    path.innerComponents = [] ↔ ∀ piece ∈ path.pieces, piece = "" ∨ piece = "." := by
  simp only [innerComponents, List.filterMap_eq_nil_iff, componentOf_eq_none]

variable {other : Path}

theorem Rests.fileName_eq_none (rests : other.Rests) : other.fileName = none := by
  rw [Option.eq_none_iff_forall_ne_some]
  intro name found
  rw [fileName_eq_some, innerComponents_eq_nil.mpr rests.2] at found
  cases found

/-- The name of a path is also that of what lies nowhere below it. -/
theorem fileName_join_of_rests (base : Path) (rests : other.Rests) :
    (base / other).fileName = base.fileName := by
  have same : (base / other).innerComponents = base.innerComponents := by
    refine (base.innerComponents_join rests.1).trans ?_
    rw [innerComponents_eq_nil.mpr rests.2, List.append_nil]
  ext name
  rw [fileName_eq_some, fileName_eq_some, same]

/-- A path that goes somewhere ends in the same name wherever it starts. -/
theorem fileName_join_of_moves (base : Path) (moves : ¬other.Rests) :
    (base / other).fileName = other.fileName := by
  change (base.join other).fileName = _
  cases absolute : other.isAbsolute with
  | true => rw [join, if_pos absolute]
  | false =>
    have goesOn : other.innerComponents ≠ [] :=
      fun none => moves ⟨absolute, innerComponents_eq_nil.mp none⟩
    ext name
    rw [fileName_eq_some, fileName_eq_some, base.innerComponents_join absolute,
      List.getLast?_append_of_ne_nil _ goesOn]

/-! ## Components put together -/

/-- A component is written without separators and read back as itself. -/
structure IsInner (component : Component) : Prop where
  noSeparator : '/' ∉ (componentText component).toList
  reads : componentOf (componentText component) = some component

theorem isInner_of_componentOf {piece : String} {component : Component}
    (noSeparator : '/' ∉ piece.toList) (stands : componentOf piece = some component) :
    IsInner component := by
  obtain rfl := componentText_of_componentOf stands
  exact ⟨noSeparator, stands⟩

theorem components_foldl_join (path : Path) {steps : List Component}
    (inner : ∀ component ∈ steps, IsInner component) :
    (steps.foldl (fun path component => path.join ⟨componentText component⟩) path).components =
      path.components ++ steps := by
  induction steps generalizing path with
  | nil => exact (List.append_nil _).symm
  | cons component rest ih =>
    rw [List.forall_mem_cons] at inner
    rw [List.foldl_cons, ih _ inner.2]
    have one := components_join path inner.1.noSeparator inner.1.reads
    rw [show path.join ⟨componentText component⟩ = path / componentText component from rfl, one,
      List.append_assoc, List.singleton_append]

/-- Only in front is there a component of another kind. -/
theorem exists_components_eq (path : Path) :
    ∃ front steps, path.components = front ++ steps ∧
      (ofComponents front).components = front ∧ ∀ component ∈ steps, IsInner component := by
  have inner : ∀ component ∈ path.innerComponents, IsInner component := by
    intro component member
    obtain ⟨piece, inside, stands⟩ := List.mem_filterMap.mp member
    obtain ⟨chars, split, rfl⟩ := List.mem_map.mp inside
    refine isInner_of_componentOf ?_ stands
    rw [String.toList_ofList]
    exact Text.notMem_of_mem_splitAt split
  obtain ⟨front, parts, only⟩ := path.exists_components_eq_inner
  refine ⟨front, _, parts, ?_, inner⟩
  rcases only with rfl | rfl | rfl <;> decide

/-- A path put together from the components of another one has the same components. -/
theorem components_ofComponents (path : Path) :
    (ofComponents path.components).components = path.components := by
  obtain ⟨front, steps, parts, whole, inner⟩ := path.exists_components_eq
  rw [parts, ofComponents, List.foldl_append, ← ofComponents, components_foldl_join _ inner, whole]

/-- The parent of a joined path leads where the first path leads. -/
theorem exists_parent_join (base : Path) {name : String} (plain : IsName name) :
    ∃ folder, (base / name).parent = some folder ∧ folder.components = base.components := by
  refine ⟨ofComponents base.components, ?_, components_ofComponents base⟩
  rw [parent, components_join_name base plain, List.reverse_append]
  simp

end ReleasePacker.Path
