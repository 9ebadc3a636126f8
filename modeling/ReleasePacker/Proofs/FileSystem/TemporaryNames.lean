import ReleasePacker.Proofs.FileSystem.Crossing

/-!
# Temporary names that are found

Names for temporary files are tried until one is free. Whether the system accepts such a name
depends on the folder and on how long the name is, and the unique parts of the names all have one
length. So if one name was accepted then all are, and a free one among them is found.
-/

namespace ReleasePacker

/-! ## How long paths are -/

namespace Utf8

theorem encode_append (front back : String) :
    encode (front ++ back) = encode front ++ encode back := by
  rw [encode, String.toList_append, List.flatMap_append]
  rfl

theorem encode_eq_nil {text : String} : encode text = [] ↔ text.toList = [] := by
  rw [encode, List.flatMap_eq_nil_iff]
  constructor
  · intro none
    by_contra some
    obtain ⟨c, member⟩ := List.exists_mem_of_ne_nil _ some
    have empty := none c member
    unfold encodeChar at empty
    dsimp only at empty
    split_ifs at empty
  · intro none
    simp [none]

/-- Each of the first characters is one byte. -/
theorem length_flatMap_encodeChar {chars : List Char} (plain : ∀ c ∈ chars, c.toNat < 0x80) :
    (chars.flatMap encodeChar).length = chars.length := by
  induction chars with
  | nil => rfl
  | cons c rest ih =>
    rw [List.forall_mem_cons] at plain
    rw [List.flatMap_cons, List.length_append, ih plain.2, encodeChar, if_pos plain.1,
      List.length_singleton, List.length_cons, Nat.add_comm]

end Utf8

namespace Path

/-- A relative path is put after a separator, which may be there already. -/
theorem exists_text_join (base : Path) : ∃ separator : String, '\x00' ∉ separator.toList ∧
    ∀ other : Path, other.isAbsolute = false →
      (base.join other).text = base.text ++ separator ++ other.text := by
  refine ⟨_, ?_, fun other relative => by rw [join_of_relative base relative]⟩
  split <;> decide

/-- A name does not end in a separator, so one is put after it. -/
theorem text_join_join (base : Path) {name file : String} (plain : IsName name)
    (noSeparator : '/' ∉ file.toList) :
    (base / name / file).text = (base / name).text ++ "/" ++ file := by
  obtain ⟨separator, -, texts⟩ := base.exists_text_join
  have named : (base / name).text = base.text ++ separator ++ name :=
    texts ⟨name⟩ (isAbsolute_of_notMem plain.noSeparator)
  have nonempty : name.toList ≠ [] := fun none => plain.nonempty (String.toList_eq_nil_iff.mp none)
  have last : (base / name).text.toList.getLast? ≠ some '/' := by
    rw [named, String.toList_append, List.getLast?_append_of_ne_nil _ nonempty]
    exact fun same => plain.noSeparator (List.mem_of_getLast? same)
  have more : (base / name).text.toList.isEmpty = false := by
    rw [named, String.toList_append, List.isEmpty_eq_false_iff]
    exact List.append_ne_nil_of_right_ne_nil _ nonempty
  have joined := join_of_relative (base / name) (isAbsolute_of_notMem noSeparator)
  rw [more, Bool.false_or, if_neg (by simpa using last)] at joined
  exact congrArg text joined

end Path

namespace FileSystem

/-- A path is accepted if it is as long as another one that is. -/
theorem checkPath_of_length {path other : Path} (accepted : checkPath path = .ok ())
    (noZero : '\x00' ∉ other.text.toList)
    (length : (Utf8.encode other.text).length = (Utf8.encode path.text).length) :
    checkPath other = .ok () := by
  obtain ⟨-, nonempty, short⟩ := checkPath_eq_ok.mp accepted
  refine checkPath_eq_ok.mpr ⟨noZero, fun empty => nonempty ?_, length ▸ short⟩
  rw [Utf8.encode_eq_nil.mpr empty] at length
  exact Utf8.encode_eq_nil.mp (List.length_eq_zero_iff.mp length.symm)

/-- Where a path below another one is accepted, that one is as well, unless it is empty. -/
theorem checkPath_of_join {base other : Path} (relative : other.isAbsolute = false)
    (accepted : checkPath (base.join other) = .ok ()) :
    base.text.toList = [] ∨ checkPath base = .ok () := by
  obtain ⟨separator, -, texts⟩ := base.exists_text_join
  obtain ⟨noZero, -, short⟩ := checkPath_eq_ok.mp accepted
  rw [texts other relative] at noZero short
  simp only [String.toList_append, List.mem_append, not_or] at noZero
  simp only [Utf8.encode_append, List.length_append] at short
  refine or_iff_not_imp_left.mpr fun nonempty => checkPath_eq_ok.mpr ⟨noZero.1.1, nonempty, ?_⟩
  omega

section

variable {base : Path} {name other : String} (plain : Path.IsName name) (plain' : Path.IsName other)
  (noZero : '\x00' ∉ other.toList)
  (length : (Utf8.encode other).length = (Utf8.encode name).length)
include plain plain' noZero length

/-- Names of the same length are accepted alike. -/
theorem checkPath_join_of_length (accepted : checkPath (base / name) = .ok ()) :
    checkPath (base / other) = .ok () := by
  obtain ⟨separator, -, texts⟩ := base.exists_text_join
  have text := texts ⟨name⟩ (Path.isAbsolute_of_notMem plain.noSeparator)
  have text' := texts ⟨other⟩ (Path.isAbsolute_of_notMem plain'.noSeparator)
  change (base / name).text = _ at text
  change (base / other).text = _ at text'
  have free := (checkPath_eq_ok.mp accepted).1
  rw [text, String.toList_append, List.mem_append, not_or] at free
  refine checkPath_of_length accepted ?_ ?_
  · rw [text', String.toList_append, List.mem_append, not_or]
    exact ⟨free.1, noZero⟩
  · rw [text', text]
    simp only [Utf8.encode_append, List.length_append, length]

/-- Folders whose names have the same length are accepted alike as folders of a file. -/
theorem checkPath_join_join_of_length {file : String} (noSeparator : '/' ∉ file.toList)
    (accepted : checkPath (base / name / file) = .ok ()) :
    checkPath (base / other / file) = .ok () := by
  obtain ⟨separator, -, texts⟩ := base.exists_text_join
  have text := texts ⟨name⟩ (Path.isAbsolute_of_notMem plain.noSeparator)
  have text' := texts ⟨other⟩ (Path.isAbsolute_of_notMem plain'.noSeparator)
  change (base / name).text = _ at text
  change (base / other).text = _ at text'
  have whole := base.text_join_join plain noSeparator
  have whole' := base.text_join_join plain' noSeparator
  rw [text] at whole
  rw [text'] at whole'
  have free := (checkPath_eq_ok.mp accepted).1
  simp only [whole, String.toList_append, List.mem_append, not_or] at free
  refine checkPath_of_length accepted ?_ ?_
  · simp only [whole', String.toList_append, List.mem_append, not_or]
    exact ⟨⟨⟨free.1.1.1, noZero⟩, free.1.2⟩, free.2⟩
  · rw [whole', whole]
    simp only [Utf8.encode_append, List.length_append, length]

end

end FileSystem

/-! ## Temporary names -/

/-- A text of six letters and digits, as it makes temporary names unique. -/
def IsUniqueText (text : String) : Prop :=
  text.toList.length = 6 ∧ ∀ c ∈ text.toList, c.isAlphanum

theorem isAlphanum_spec {c : Char} (plain : c.isAlphanum) :
    c.toNat < 0x80 ∧ c ≠ '/' ∧ c ≠ '\x00' := by
  refine ⟨?_, ?_, ?_⟩
  · change ((decide ('A'.val ≤ c.val ∧ c.val ≤ 'Z'.val) || 'a'.val ≤ c.val && c.val ≤ 'z'.val) ||
      '0'.val ≤ c.val && c.val ≤ '9'.val) = true at plain
    simp only [Char.reduceVal, UInt32.le_iff_toNat_le, UInt32.reduceToNat, Char.toNat_val,
      Bool.or_eq_true, Bool.and_eq_true, decide_eq_true_eq] at plain
    omega
  · rintro rfl
    exact absurd plain (by decide)
  · rintro rfl
    exact absurd plain (by decide)

namespace IsUniqueText

variable {unique : String} (six : IsUniqueText unique) (front ending : String)
include six

theorem length_encode : (Utf8.encode (front ++ unique ++ ending)).length =
    (Utf8.encode front).length + 6 + (Utf8.encode ending).length := by
  have length : (Utf8.encode unique).length = 6 := by
    rw [Utf8.encode, Utf8.length_flatMap_encodeChar fun c inside =>
      (isAlphanum_spec (six.2 c inside)).1, six.1]
  rw [Utf8.encode_append, Utf8.encode_append, List.length_append, List.length_append, length]

theorem notMem {c : Char} (absent : c ∉ front.toList ++ ending.toList)
    (special : c = '/' ∨ c = '\x00') : c ∉ (front ++ unique ++ ending).toList := by
  simp only [String.toList_append, List.mem_append, not_or] at absent ⊢
  refine ⟨⟨absent.1, fun member => ?_⟩, absent.2⟩
  have plain := isAlphanum_spec (six.2 c member)
  rcases special with rfl | rfl
  · exact plain.2.1 rfl
  · exact plain.2.2 rfl

end IsUniqueText

/-- What may stand around a unique text, so that the whole is a name that a folder can hold. -/
structure TemporaryFrame (front ending : String) : Prop where
  noSeparator : '/' ∉ front.toList ++ ending.toList
  noZero : '\x00' ∉ front.toList ++ ending.toList
  noDots : ∃ c ∈ front.toList, c ≠ '.'
  short : (Utf8.encode front).length + 6 + (Utf8.encode ending).length ≤ FileSystem.maxNameBytes

namespace TemporaryFrame

variable {front ending unique other : String} (frame : TemporaryFrame front ending)
  (six : IsUniqueText unique)
include frame six

theorem isName : Path.IsName (front ++ unique ++ ending) := by
  obtain ⟨c, member, noDot⟩ := frame.noDots
  have inside : c ∈ (front ++ unique ++ ending).toList := by simp [member]
  have isOther {text : String} (dots : ∀ d ∈ text.toList, d = '.') :
      front ++ unique ++ ending ≠ text := by
    rintro rfl
    exact noDot (dots c inside)
  exact ⟨isOther (by simp), isOther (by simp), isOther (by simp),
    six.notMem front ending frame.noSeparator (.inl rfl)⟩

theorem length_le :
    (Utf8.encode (front ++ unique ++ ending)).length ≤ FileSystem.maxNameBytes := by
  rw [six.length_encode]
  exact frame.short

/-- All temporary names are accepted alike. -/
theorem checkPath_join {base : Path} (six' : IsUniqueText other)
    (accepted : FileSystem.checkPath (base / (front ++ unique ++ ending)) = .ok ()) :
    FileSystem.checkPath (base / (front ++ other ++ ending)) = .ok () :=
  FileSystem.checkPath_join_of_length (frame.isName six) (frame.isName six')
    (six'.notMem front ending frame.noZero (.inr rfl))
    ((six'.length_encode front ending).trans (six.length_encode front ending).symm) accepted

theorem checkPath_join_join {base : Path} {file : String} (noSeparator : '/' ∉ file.toList)
    (six' : IsUniqueText other)
    (accepted : FileSystem.checkPath (base / (front ++ unique ++ ending) / file) = .ok ()) :
    FileSystem.checkPath (base / (front ++ other ++ ending) / file) = .ok () :=
  FileSystem.checkPath_join_join_of_length (frame.isName six) (frame.isName six')
    (six'.notMem front ending frame.noZero (.inr rfl))
    ((six'.length_encode front ending).trans (six.length_encode front ending).symm) noSeparator
    accepted

end TemporaryFrame

/-! ## Where temporary names are tried -/

namespace FileSystem

/-- A path from the top enters the names in it. -/
theorem takenSteps_rooted {names : List String} (plain : ∀ name ∈ names, Path.IsName name) :
    takenSteps ⟨"/" ++ Text.joinWith "/" names⟩ = names.map .enter := by
  have pieces : (⟨"/" ++ Text.joinWith "/" names⟩ : Path).pieces =
      "" :: (Text.splitAt '/' (Text.joinWith "/" names).toList).map String.ofList := by
    have split := Text.splitAt_append_cons '/' [] (Text.joinWith "/" names).toList
    rw [Path.pieces, String.toList_append]
    exact congrArg (List.map String.ofList) split
  have cut : (Text.splitAt '/' (Text.joinWith "/" names).toList).map String.ofList =
      if names = [] then [""] else names := by
    rw [Text.joinWith, String.toList_intercalate]
    by_cases none : names = []
    · subst none
      rfl
    · rw [if_neg none]
      change (Text.splitAt '/' (['/'].intercalate (names.map String.toList))).map String.ofList = _
      rw [Text.splitAt_intercalate, List.map_map]
      · simp [Function.comp_def]
      · simpa using none
      · intro chars member
        obtain ⟨name, inside, rfl⟩ := List.mem_map.mp member
        exact (plain name inside).noSeparator
  have each : names.filterMap stepOf = names.map .enter := by
    rw [← List.filterMap_eq_map]
    exact List.filterMap_congr fun name inside => stepOf_name (plain name inside)
  rw [takenSteps, pieces, cut, List.filterMap_cons_none rfl]
  split
  next none =>
    subst none
    rfl
  · exact each

section

variable {files : FileSystem} {path : Path} {folder : Location} {last : Bool}
  {destination : Destination} {name : String}
  (plain : ∀ name ∈ files.workingDirectory, Path.IsName name)
include plain

theorem takenSteps_temporaryBase (relative : path.isAbsolute = false) :
    takenSteps (files.temporaryBase path) =
      files.workingDirectory.map .enter ++ takenSteps path := by
  rw [temporaryBase, if_neg (by simp [relative])]
  change takenSteps (Path.join _ _) = _
  rw [takenSteps_join_of_relative _ relative, takenSteps_rooted plain]

/-- Where a temporary name can be used, the names of the working directory are no longer than a
folder can hold. -/
theorem length_le_of_temporary (relative : path.isAbsolute = false) (isName : Path.IsName name)
    (leads : files.follow (files.temporaryBase path / name) last = .ok destination) :
    ∀ name ∈ files.workingDirectory, (Utf8.encode name).length ≤ maxNameBytes := by
  obtain ⟨-, passed, whole⟩ := follow_eq_ok.mp leads
  rw [steps_join_name _ isName, takenSteps_temporaryBase plain relative, List.append_assoc] at whole
  exact fun name inside =>
    whole.short_of_mem (List.mem_append_left _ (List.mem_map.mpr ⟨name, inside, rfl⟩))

/-- Temporary names are tried in the folder that a path leads to. -/
theorem EntersFolder.temporaryBase (enters : files.EntersFolder path folder)
    (short : path.isAbsolute = false →
      ∀ name ∈ files.workingDirectory, (Utf8.encode name).length ≤ maxNameBytes) :
    files.EntersFolder (files.temporaryBase path) folder := by
  cases relative : path.isAbsolute with
  | true => rwa [FileSystem.temporaryBase, if_pos relative]
  | false =>
    obtain ⟨inside, passed, leads⟩ := enters
    have start : linkStart files.workingDirectory path = files.workingDirectory := by
      rw [linkStart, relative, if_neg Bool.false_ne_true]
    have top : linkStart files.workingDirectory (files.temporaryBase path) = [] := by
      rw [FileSystem.temporaryBase, relative, if_neg Bool.false_ne_true]
      change linkStart _ (Path.join _ _) = []
      rw [linkStart_join _ _ relative, linkStart, if_pos]
      rw [Path.isAbsolute, String.toList_append]
      rfl
    rw [start] at leads
    -- The path starts in the working directory, so this is a folder, and so is all above it.
    have directory : files.entryAt files.workingDirectory = some .folder := by
      by_cases stays : takenSteps path = []
      · rw [stays] at leads
        cases leads
        exact inside
      · exact leads.start_folder stays
    have folders : ∀ front, front <+: files.workingDirectory →
        files.entryAt ([] ++ front) = some .folder := by
      rintro front ⟨back, whole⟩
      rw [List.nil_append]
      by_cases proper : back = []
      · rw [proper, List.append_nil] at whole
        rw [whole, directory]
      · exact entryAt_of_append (by rw [whole, directory]; exact Option.some_ne_none _) proper
    obtain ⟨passed', walk⟩ := Leads.of_names leads folders (short relative)
    refine ⟨inside, passed', ?_⟩
    rw [top, takenSteps_temporaryBase plain relative]
    exact walk

end

/-! ## A free name is found -/

/-- A way to make a new entry under a free name in a folder. -/
structure MakesNew (make : FileSystem → Path → Except IoError FileSystem) (node : Node) : Prop where
  free : ∀ {files : FileSystem} {base : Path} {name folder}, Path.IsName name →
    files.follow (base / name) false = .ok (.free folder name false) →
    make files (base / name) = .ok (files.put folder name node)
  taken : ∀ {files : FileSystem} {base : Path} {name location}, Path.IsName name →
    files.follow (base / name) false = .ok (.found location) →
    make files (base / name) = .error .entryExists

/-- A path that ends in a name has no separators after it. -/
theorem followName_join (files : FileSystem) (base : Path) {name : String}
    (plain : Path.IsName name) :
    files.followName (base / name) = files.follow (base / name) false :=
  followName_eq_follow (by rw [steps_join_name base plain, takenSteps_join_name base plain])

theorem makesNew_makeFolder : MakesNew makeFolder (.folder []) where
  free plain leads := by rw [makeFolder, followName_join _ _ plain, leads]
  taken plain leads := by rw [makeFolder, followName_join _ _ plain, leads]

theorem makesNew_createNew (mode : Nat) :
    MakesNew (fun files path => files.createNew path mode) (.file mode []) where
  free _ leads := by rw [createNew, leads]
  taken _ leads := by rw [createNew, leads]

/-- The temporary names between a front and an ending are tried in a folder, and all of them could
be given to something in it. -/
structure Tries (files : FileSystem) (uniqueText : Nat → String) (base : Path)
    (front ending : String) (folder : Location) : Prop where
  frame : TemporaryFrame front ending
  unique : ∀ attempt, IsUniqueText (uniqueText attempt)
  enters : files.EntersFolder (files.temporaryBase base) folder
  accepted : ∀ attempt,
    checkPath (files.temporaryBase base / (front ++ uniqueText attempt ++ ending)) = .ok ()

namespace Tries

variable {files : FileSystem} {uniqueText : Nat → String} {base : Path} {front ending : String}
  {folder : Location}

theorem of_accepted {unique : String} (frame : TemporaryFrame front ending)
    (each : ∀ attempt, IsUniqueText (uniqueText attempt))
    (enters : files.EntersFolder (files.temporaryBase base) folder) (six : IsUniqueText unique)
    (accepted : checkPath (files.temporaryBase base / (front ++ unique ++ ending)) = .ok ()) :
    files.Tries uniqueText base front ending folder :=
  ⟨frame, each, enters, fun attempt => frame.checkPath_join six (each attempt) accepted⟩

/-- A name is free, or something has it. -/
theorem follow (tries : files.Tries uniqueText base front ending folder) (attempt : Nat) :
    files.follow (files.temporaryBase base / (front ++ uniqueText attempt ++ ending)) false =
      .ok (if files.entryAt (folder ++ [front ++ uniqueText attempt ++ ending]) = none then
        .free folder (front ++ uniqueText attempt ++ ending) false
      else .found (folder ++ [front ++ uniqueText attempt ++ ending])) := by
  have plain := tries.frame.isName (tries.unique attempt)
  have short := tries.frame.length_le (tries.unique attempt)
  cases there : files.entryAt (folder ++ [front ++ uniqueText attempt ++ ending]) with
  | none => exact tries.enters.follow_free plain (tries.accepted attempt) short there
  | some entry =>
    rw [if_neg nofun]
    exact tries.enters.follow_found plain (tries.accepted attempt) short there nofun

/-- A name that is not taken is free. -/
theorem entryAt_eq_none (tries : files.Tries uniqueText base front ending folder)
    {attempt : Nat}
    (free : files.holds (files.temporaryBase base / (front ++ uniqueText attempt ++ ending)) =
      false) :
    files.entryAt (folder ++ [front ++ uniqueText attempt ++ ending]) = none := by
  by_contra taken
  have leads := tries.follow attempt
  rw [if_neg taken] at leads
  rw [holds, locate_eq_ok.mpr leads] at free
  cases free

/-- If a name is free where none of those tried before it is, the attempts come to it. -/
theorem exists_firstFree {make : FileSystem → Path → Except IoError FileSystem} {node : Node}
    (makes : MakesNew make node) (tries : files.Tries uniqueText base front ending folder)
    {left next attempt : Nat} (later : next ≤ attempt) (within : attempt < next + left)
    (free : files.entryAt (folder ++ [front ++ uniqueText attempt ++ ending]) = none) :
    ∃ result, firstFree (make files)
      (fun attempt => files.temporaryBase base / (front ++ uniqueText attempt ++ ending)) left
        next = .ok result := by
  induction left generalizing next with
  | zero => omega
  | succ left ih =>
    rw [firstFree]
    have plain := tries.frame.isName (tries.unique next)
    have leads := tries.follow next
    by_cases here : files.entryAt (folder ++ [front ++ uniqueText next ++ ending]) = none
    · rw [if_pos here] at leads
      rw [makes.free plain leads]
      exact ⟨_, rfl⟩
    · rw [if_neg here] at leads
      rw [makes.taken plain leads]
      have other : next ≠ attempt := by
        rintro rfl
        exact here free
      exact ih (by omega) (by omega)

/-- If a name is free, something is made under a free name. -/
theorem exists_makeTemporary {make : FileSystem → Path → Except IoError FileSystem} {node : Node}
    (makes : MakesNew make node) (tries : files.Tries uniqueText base front ending folder)
    (free : ∃ attempt < maxAttempts,
      files.entryAt (folder ++ [front ++ uniqueText attempt ++ ending]) = none) :
    ∃ attempt, files.entryAt (folder ++ [front ++ uniqueText attempt ++ ending]) = none ∧
      files.makeTemporary uniqueText make base front ending =
        .ok (files.temporaryBase base / (front ++ uniqueText attempt ++ ending),
          files.put folder (front ++ uniqueText attempt ++ ending) node) := by
  obtain ⟨attempt, few, free⟩ := free
  obtain ⟨⟨path, after⟩, found⟩ :=
    tries.exists_firstFree makes (Nat.zero_le attempt) (by rwa [Nat.zero_add]) free
  have made : files.makeTemporary uniqueText make base front ending = .ok (path, after) := found
  obtain ⟨used, rfl, making⟩ := makeTemporary_eq_ok made
  have plain := tries.frame.isName (tries.unique used)
  have leads := tries.follow used
  by_cases here : files.entryAt (folder ++ [front ++ uniqueText used ++ ending]) = none
  · rw [if_pos here] at leads
    rw [makes.free plain leads] at making
    cases making
    exact ⟨used, here, made⟩
  · rw [if_neg here] at leads
    rw [makes.taken plain leads] at making
    cases making

/-- All names can still be given if all that existed is kept. -/
theorem of_kept {after : FileSystem} (tries : files.Tries uniqueText base front ending folder)
    (workingDirectory : after.workingDirectory = files.workingDirectory)
    (kept : ∀ l, files.entryAt l ≠ none → SameShape files after l) :
    after.Tries uniqueText base front ending folder := by
  have same : after.temporaryBase base = files.temporaryBase base := by
    rw [temporaryBase, temporaryBase, workingDirectory]
  refine ⟨tries.frame, tries.unique, ?_, ?_⟩ <;> rw [same]
  · exact tries.enters.of_kept workingDirectory kept
  · exact tries.accepted

end Tries
end FileSystem
end ReleasePacker
