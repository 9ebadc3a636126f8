import Mathlib.Data.List.Induction
import Mathlib.Data.List.Nodup
import Mathlib.Data.Option.Basic
import Mathlib.Tactic.Tauto
import ReleasePacker.Artifact
import ReleasePacker.Proofs.FileSystem.Paths

/-!
# Names of artifacts

A set of files is checked when it is made: each file has a name, and no two have the same. The first
file that does not fit those before it is what is wrong with a list, whatever comes after it.
-/

namespace ReleasePacker

/-- The words for the four kinds. -/
inductive ArtifactKind.IsCalled : ArtifactKind → String → Prop
  | binary : IsCalled .binary "binary"
  | config : IsCalled .config "config"
  | readme : IsCalled .readme "readme"
  | license : IsCalled .license "license"

theorem ArtifactKind.isCalled_iff {kind : ArtifactKind} {word : String} :
    kind.IsCalled word ↔ word = kind.name := by
  constructor
  · rintro ⟨⟩ <;> rfl
  · rintro rfl
    cases kind with
    | binary => exact .binary
    | config => exact .config
    | readme => exact .readme
    | license => exact .license

namespace Artifact

variable {artifact : Artifact}

theorem isName (named : artifact.fileName ≠ "") : Path.IsName artifact.fileName := by
  rw [fileName] at named ⊢
  cases found : artifact.source.fileName with
  | none =>
    rw [found] at named
    exact absurd rfl named
  | some name => exact Path.isName_of_fileName found

theorem fileName_eq_empty : artifact.fileName = "" ↔ artifact.source.fileName = none := by
  rw [fileName]
  cases found : artifact.source.fileName with
  | none => simp
  | some name => simpa using (Path.isName_of_fileName found).nonempty

theorem source_fileName (named : artifact.source.fileName ≠ none) :
    artifact.source.fileName = some artifact.fileName := by
  obtain ⟨name, found⟩ := Option.ne_none_iff_exists'.mp named
  rw [fileName, found, Option.getD_some]

end Artifact

namespace ArtifactSet

variable {entries before after : List Artifact} {artifact : Artifact} {set : ArtifactSet}

/-- Each file has a name of its own. -/
structure WellNamed (set : ArtifactSet) : Prop where
  isName : ∀ artifact ∈ set.entries, Path.IsName artifact.fileName
  nodup : set.fileNames.Nodup

/-- Each path in a list ends in a name, and no two of them in the same one. -/
structure NamesDiffer (entries : List Artifact) : Prop where
  named : ∀ artifact ∈ entries, artifact.source.fileName ≠ none
  nodup : (entries.map fun artifact => artifact.source.fileName).Nodup

/-- Why a file does not go with those before it: its path ends in no name, or in the same one as
that of an earlier file. -/
inductive Refused (before : List Artifact) (artifact : Artifact) : String → Prop
  | nameless {word : String} (called : artifact.kind.IsCalled word)
    (none : artifact.source.fileName = none) :
    Refused before artifact (word ++ " path " ++ artifact.source.text ++ " has no file name")
  | repeated {earlier : Artifact} {name : String} (inside : earlier ∈ before)
    (same : earlier.source.fileName = some name) (named : artifact.source.fileName = some name) :
    Refused before artifact ("more than one artifact is named " ++ name)

/-! ## The first fault -/

theorem firstFault_cons (seen : List String) (artifact : Artifact) (rest : List Artifact) :
    firstFault seen (artifact :: rest) =
      (firstFault seen [artifact]).or (firstFault (artifact.fileName :: seen) rest) := by
  simp only [firstFault]
  split_ifs <;> rfl

/-- The files of a list are looked at in order, and those looked at count by their names. -/
theorem firstFault_append (seen : List String) (front back : List Artifact) :
    firstFault seen (front ++ back) = (firstFault seen front).or
      (firstFault ((front.map Artifact.fileName).reverse ++ seen) back) := by
  induction front generalizing seen with
  | nil => rfl
  | cons artifact rest ih =>
    rw [List.cons_append, firstFault_cons, ih, firstFault_cons seen artifact rest, Option.or_assoc,
      List.map_cons, List.reverse_cons, List.append_assoc, List.singleton_append]

theorem firstFault_singleton {seen : List String} :
    firstFault seen [artifact] = none ↔ artifact.fileName ≠ "" ∧ artifact.fileName ∉ seen := by
  simp only [firstFault]
  split_ifs <;> simp [*]

theorem firstFault_eq_none : firstFault [] entries = none ↔
    (∀ artifact ∈ entries, artifact.fileName ≠ "") ∧ (entries.map Artifact.fileName).Nodup := by
  -- From the end, where a file meets all those before it and no names were seen yet at the start.
  induction entries using List.reverseRecOn with
  | nil => simp [firstFault]
  | append_singleton front artifact ih =>
    rw [firstFault_append, Option.or_eq_none_iff, ih, firstFault_singleton]
    simp only [List.append_nil, List.mem_reverse, List.mem_append, List.mem_singleton, or_imp,
      forall_and, forall_eq, List.map_append, List.map_cons, List.map_nil, List.nodup_append',
      List.nodup_singleton, List.disjoint_singleton]
    tauto

/-- Where all paths end in names, it does not matter which kind of name is compared. -/
theorem namesDiffer_iff : NamesDiffer entries ↔
    (∀ artifact ∈ entries, artifact.fileName ≠ "") ∧ (entries.map Artifact.fileName).Nodup := by
  have names (named : ∀ artifact ∈ entries, artifact.source.fileName ≠ none) :
      (entries.map fun artifact => artifact.source.fileName) =
        (entries.map Artifact.fileName).map some := by
    rw [List.map_map]
    exact List.map_congr_left fun artifact inside =>
      artifact.source_fileName (named artifact inside)
  have compared := List.nodup_map_iff (l := entries.map Artifact.fileName) (Option.some_injective _)
  simp only [ne_eq, Artifact.fileName_eq_empty]
  constructor
  · rintro ⟨named, nodup⟩
    rw [names named, compared] at nodup
    exact ⟨named, nodup⟩
  · rintro ⟨named, nodup⟩
    refine ⟨named, ?_⟩
    rwa [names named, compared]

/-- The first fault is that of a file that does not go with the files before it, which go with each
other. -/
theorem firstFault_eq_some {fault : ArtifactFault} : firstFault [] entries = some fault ↔
    ∃ before artifact after, entries = before ++ artifact :: after ∧
      firstFault [] before = none ∧
      firstFault ((before.map Artifact.fileName).reverse) [artifact] = some fault := by
  constructor
  · intro found
    -- What is found in the front of a list is still the first fault when the list goes on.
    induction entries using List.reverseRecOn with
    | nil => cases found
    | append_singleton front artifact ih =>
      rw [firstFault_append, List.append_nil] at found
      cases faultless : firstFault [] front with
      | none =>
        rw [faultless, Option.none_or] at found
        exact ⟨front, artifact, [], rfl, faultless, found⟩
      | some earlier =>
        rw [faultless, Option.some_or] at found
        obtain ⟨before, artifact', after, rfl, rest⟩ := ih (faultless.trans found)
        exact ⟨before, artifact', after ++ [artifact], by simp, rest⟩
  · rintro ⟨before, artifact, after, rfl, faultless, found⟩
    rw [firstFault_append, faultless, Option.none_or, List.append_nil, firstFault_cons, found,
      Option.some_or]

/-- A file is at fault among the names of those before it just if it does not go with them. -/
theorem refused_iff {reason : String} : Refused before artifact reason ↔
    ∃ fault, firstFault ((before.map Artifact.fileName).reverse) [artifact] = some fault ∧
      fault.message = reason := by
  simp only [firstFault, List.mem_reverse, List.mem_map]
  constructor
  · intro refused
    cases refused with
    | nameless called none =>
      rw [if_pos (Artifact.fileName_eq_empty.mpr none), ArtifactKind.isCalled_iff.mp called]
      exact ⟨_, rfl, rfl⟩
    | @repeated earlier name inside same named =>
      obtain rfl : artifact.fileName = name := by rw [Artifact.fileName, named, Option.getD_some]
      have again : earlier.fileName = artifact.fileName := by
        rw [Artifact.fileName, same, Option.getD_some]
      rw [if_neg (Path.isName_of_fileName named).nonempty, if_pos ⟨earlier, inside, again⟩]
      exact ⟨_, rfl, rfl⟩
  · rintro ⟨fault, found, rfl⟩
    split at found
    next nameless =>
      cases found
      exact .nameless (ArtifactKind.isCalled_iff.mpr rfl) (Artifact.fileName_eq_empty.mp nameless)
    next nonempty =>
      split at found
      next repeated =>
        cases found
        obtain ⟨earlier, inside, same⟩ := repeated
        have named {other : Artifact} (some : other.fileName ≠ "") :
            other.source.fileName = .some other.fileName :=
          other.source_fileName (mt Artifact.fileName_eq_empty.mpr some)
        exact .repeated inside (same ▸ named (same ▸ nonempty)) (named nonempty)
      · cases found

/-! ## Sets -/

theorem ofList_eq_ok : ofList entries = .ok set ↔ set.entries = entries ∧ NamesDiffer entries := by
  rw [namesDiffer_iff, ← firstFault_eq_none, ofList]
  cases firstFault [] entries with
  | some fault => simp
  | none =>
    obtain ⟨listed⟩ := set
    simp [eq_comm]

theorem ofList_eq_error {error : ReleaseError} : ofList entries = .error error ↔
    ∃ before artifact after reason, entries = before ++ artifact :: after ∧ NamesDiffer before ∧
      Refused before artifact reason ∧ error = .invalidConfig reason := by
  simp only [namesDiffer_iff, ← firstFault_eq_none, refused_iff]
  rw [ofList]
  constructor
  · intro failed
    cases found : firstFault [] entries with
    | none =>
      rw [found] at failed
      cases failed
    | some fault =>
      rw [found] at failed
      cases failed
      obtain ⟨before, artifact, after, cut, faultless, here⟩ := firstFault_eq_some.mp found
      exact ⟨before, artifact, after, _, cut, faultless, ⟨fault, here, rfl⟩, rfl⟩
  · rintro ⟨before, artifact, after, _, cut, faultless, ⟨fault, here, rfl⟩, rfl⟩
    rw [firstFault_eq_some.mpr ⟨before, artifact, after, cut, faultless, here⟩]

/-- A list of files is a set, of just these files in this order, exactly if each path in it ends in
a name and no two end in the same one. Otherwise the first file that does not go with those before
it is what is wrong with the list, and it is so whatever files come after it. -/
theorem ofList_decides (entries : List Artifact) :
    (∀ set, ofList entries = .ok set ↔ set.entries = entries ∧ NamesDiffer entries) ∧
    ∀ error, ofList entries = .error error ↔
      ∃ before artifact after reason, entries = before ++ artifact :: after ∧
        NamesDiffer before ∧ Refused before artifact reason ∧ error = .invalidConfig reason :=
  ⟨fun _ => ofList_eq_ok, fun _ => ofList_eq_error⟩

/-- Names are compared, not the ways to write them, and the first clash is reported. -/
example : ofList [⟨.license, ⟨"MIT"⟩⟩, ⟨.readme, ⟨"licenses/MIT/."⟩⟩, ⟨.config, ⟨".."⟩⟩] =
    .error (.invalidConfig "more than one artifact is named MIT") := by
  decide

theorem wellNamed_of_ofList (made : ofList entries = .ok set) : set.WellNamed := by
  obtain ⟨rfl, differ⟩ := ofList_eq_ok.mp made
  obtain ⟨named, nodup⟩ := namesDiffer_iff.mp differ
  exact ⟨fun artifact inside => artifact.isName (named artifact inside), nodup⟩

theorem wellNamed_of_ofManifest {manifest : Manifest} {projectRoot binary : Path}
    (made : ofManifest manifest projectRoot binary = .ok set) : set.WellNamed :=
  wellNamed_of_ofList made

end ArtifactSet
end ReleasePacker
