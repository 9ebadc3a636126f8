import ReleasePacker.Proofs.FileSystem.Following
import ReleasePacker.Proofs.Text.Pieces

/-!
# Paths as steps

The steps of a path are read off its text. Here is what joining does to them, and how questions
to a file system about a path become facts about where its steps lead.
-/

namespace ReleasePacker

namespace Path

/-- A text that names an entry of a folder. -/
structure IsName (text : String) : Prop where
  nonempty : text ≠ ""
  notCurrent : text ≠ "."
  notParent : text ≠ ".."
  noSeparator : '/' ∉ text.toList

theorem pieces_ne_nil (path : Path) : path.pieces ≠ [] :=
  mt List.map_eq_nil_iff.mp (Text.splitAt_ne_nil _ _)

/-- The components that the pieces of a path stand for, which are all but the root or the current
folder in front. -/
def innerComponents (path : Path) : List Component := path.pieces.filterMap componentOf

theorem exists_components_eq_inner (path : Path) :
    ∃ front, path.components = front ++ path.innerComponents ∧
      (front = [] ∨ front = [.root] ∨ front = [.current]) := by
  rw [components]
  split
  · exact ⟨[.root], rfl, .inr (.inl rfl)⟩
  · split
    · exact ⟨[.current], rfl, .inr (.inr rfl)⟩
    · exact ⟨[], rfl, .inl rfl⟩

/-- A path ends in a name if that is what its pieces stand for last. -/
theorem fileName_eq_some {path : Path} {name : String} :
    path.fileName = some name ↔ path.innerComponents.getLast? = some (.name name) := by
  have last : path.fileName = some name ↔ path.components.getLast? = some (.name name) := by
    rw [fileName]
    split
    next found => simp [found]
    next other => simpa using other name
  obtain ⟨front, parts, only⟩ := path.exists_components_eq_inner
  rw [last, parts, List.getLast?_append]
  cases path.innerComponents.getLast? with
  | none => rcases only with rfl | rfl | rfl <;> simp
  | some component => rw [Option.some_or]

/-- The name that a path ends in is a name. -/
theorem isName_of_fileName {path : Path} {name : String} (found : path.fileName = some name) :
    IsName name := by
  obtain ⟨piece, inside, named⟩ :=
    List.mem_filterMap.mp (List.mem_of_getLast? (fileName_eq_some.mp found))
  obtain ⟨chars, split, rfl⟩ := List.mem_map.mp inside
  rw [componentOf] at named
  split at named
  · cases named
  next other =>
    rw [Bool.or_eq_true, decide_eq_true_eq, decide_eq_true_eq, not_or] at other
    split at named
    · cases named
    next notParent =>
      cases named
      refine ⟨other.1, other.2, notParent, ?_⟩
      rw [String.toList_ofList]
      exact Text.notMem_of_mem_splitAt split

theorem join_of_relative (base : Path) {other : Path} (relative : other.isAbsolute = false) :
    base.join other = ⟨base.text ++
      (if base.text.toList.isEmpty || base.text.toList.getLast? = some '/' then "" else "/") ++
      other.text⟩ := by
  rw [join, relative, if_neg Bool.false_ne_true]
  split <;> simp

theorem isAbsolute_join_of_relative (base : Path) {other : Path}
    (relative : other.isAbsolute = false) : (base.join other).isAbsolute = base.isAbsolute := by
  rw [join_of_relative base relative, isAbsolute, isAbsolute]
  rw [isAbsolute] at relative
  cases chars : base.text.toList with
  | nil => simp [chars, relative]
  | cons c rest => simp [chars]

/-- The pieces of a relative path follow those of the first path, except for an empty one at its
end. -/
theorem exists_pieces_join_of_relative (base : Path) {other : Path}
    (relative : other.isAbsolute = false) :
    ∃ init, (base.join other).pieces = init ++ other.pieces ∧
      (base.pieces = init ∨ base.pieces = init ++ [""]) := by
  rw [join_of_relative base relative, pieces, pieces, pieces]
  simp only [String.toList_append]
  rcases List.eq_nil_or_concat base.text.toList with chars | ⟨front, c, chars⟩
  · refine ⟨[], ?_, .inr (by rw [chars]; rfl)⟩
    simp [chars]
  · rw [chars, List.concat_eq_append]
    by_cases separator : c = '/'
    -- The separator is there already, and nothing stands behind it.
    · subst separator
      refine ⟨(Text.splitAt '/' front).map String.ofList, ?_, .inr ?_⟩
      · simpa using congrArg (List.map String.ofList)
          (Text.splitAt_append_cons '/' front other.text.toList)
      · rw [Text.splitAt_append_cons, List.map_append]
        rfl
    · refine ⟨(Text.splitAt '/' (front ++ [c])).map String.ofList, ?_, .inl rfl⟩
      simpa [separator] using congrArg (List.map String.ofList)
        (Text.splitAt_append_cons '/' (front ++ [c]) other.text.toList)

/-- What is read off the pieces of a relative path follows what is read off those of the first path,
if nothing is read off an empty piece. -/
theorem filterMap_pieces_join {β : Type} {read : String → Option β} (idle : read "" = none)
    (base : Path) {other : Path} (relative : other.isAbsolute = false) :
    (base.join other).pieces.filterMap read =
      base.pieces.filterMap read ++ other.pieces.filterMap read := by
  obtain ⟨init, joined, before⟩ := base.exists_pieces_join_of_relative relative
  have front : init.filterMap read = base.pieces.filterMap read := by
    rcases before with before | before <;> rw [before]
    rw [List.filterMap_append, List.filterMap_cons, idle, List.filterMap_nil, List.append_nil]
  rw [joined, List.filterMap_append, front]

theorem innerComponents_join (base : Path) {other : Path} (relative : other.isAbsolute = false) :
    (base.join other).innerComponents = base.innerComponents ++ other.innerComponents :=
  filterMap_pieces_join rfl base relative

/-- A joined path ends in the second one. -/
theorem exists_join_text (base other : Path) :
    ∃ front, (base.join other).text.toList = front ++ other.text.toList := by
  cases absolute : other.isAbsolute with
  | true => exact ⟨[], by rw [join, if_pos absolute, List.nil_append]⟩
  | false =>
    rw [join_of_relative base absolute, String.toList_append]
    exact ⟨_, rfl⟩

section

variable (base : Path) {text : String} (noSeparator : '/' ∉ text.toList)
include noSeparator

theorem isAbsolute_of_notMem : (⟨text⟩ : Path).isAbsolute = false := by
  rw [isAbsolute, decide_eq_false_iff_not]
  exact fun separator => noSeparator (List.mem_of_mem_head? separator)

theorem pieces_of_notMem : (⟨text⟩ : Path).pieces = [text] := by
  rw [pieces, Text.splitAt_of_notMem noSeparator, List.map_singleton, String.ofList_toList]

theorem isAbsolute_join : (base / text).isAbsolute = base.isAbsolute :=
  base.isAbsolute_join_of_relative (isAbsolute_of_notMem noSeparator)

/-- The text at the end of a joined path is a piece of its own. The pieces before it are those of
the first path, except for an empty one at its end. -/
theorem exists_pieces_join :
    ∃ init, (base / text).pieces = init ++ [text] ∧
      (base.pieces = init ∨ base.pieces = init ++ [""]) := by
  obtain ⟨init, joined, before⟩ :=
    base.exists_pieces_join_of_relative (isAbsolute_of_notMem noSeparator)
  exact ⟨init, joined.trans (congrArg _ (pieces_of_notMem noSeparator)), before⟩

end

end Path

namespace FileSystem

/-! ## The steps of a path -/

theorem steps_eq_taken (path : Path) :
    steps path = takenSteps path ∨ steps path = takenSteps path ++ [.stay] := by
  rw [steps]
  split
  · exact .inr rfl
  · exact .inl rfl

/-- Every path asks for something, if only for a folder. -/
theorem steps_ne_nil (path : Path) : steps path ≠ [] := by
  obtain ⟨front, piece, pieces⟩ := (List.eq_nil_or_concat _).resolve_left path.pieces_ne_nil
  rw [List.concat_eq_append] at pieces
  by_cases nonempty : piece = ""
  · simp [steps, pieces, nonempty]
  · simp only [steps, takenSteps, pieces, List.getLast?_concat, Option.some.injEq, if_neg nonempty,
      List.filterMap_append, List.filterMap_cons, List.filterMap_nil, stepOf]
    split_ifs <;> simp

theorem stepOf_name {name : String} (plain : Path.IsName name) :
    stepOf name = some (.enter name) := by
  rw [stepOf, if_neg plain.nonempty, if_neg plain.notCurrent, if_neg plain.notParent]

theorem takenSteps_name {name : String} (plain : Path.IsName name) :
    takenSteps ⟨name⟩ = [.enter name] := by
  rw [takenSteps, Path.pieces_of_notMem plain.noSeparator, List.filterMap_cons, stepOf_name plain,
    List.filterMap_nil]

theorem steps_name {name : String} (plain : Path.IsName name) : steps ⟨name⟩ = [.enter name] := by
  have last : [name].getLast? ≠ some "" := fun same => plain.nonempty (Option.some.inj same)
  rw [steps, Path.pieces_of_notMem plain.noSeparator, if_neg last, takenSteps_name plain]

theorem takenSteps_join_of_relative (base : Path) {other : Path}
    (relative : other.isAbsolute = false) :
    takenSteps (base.join other) = takenSteps base ++ takenSteps other :=
  Path.filterMap_pieces_join rfl base relative

/-- The steps of a relative path are taken after those of the path below which it is. -/
theorem steps_join_of_relative (base : Path) {other : Path} (relative : other.isAbsolute = false) :
    steps (base.join other) = takenSteps base ++ steps other := by
  obtain ⟨init, pieces, -⟩ := base.exists_pieces_join_of_relative relative
  have last : (base.join other).pieces.getLast? = other.pieces.getLast? := by
    rw [pieces]
    exact List.getLast?_append_of_ne_nil _ other.pieces_ne_nil
  rw [steps, steps, last, takenSteps_join_of_relative base relative]
  split
  · exact List.append_assoc _ _ _
  · rfl

/-- A path below another one takes one more step. -/
theorem steps_join_name (base : Path) {name : String} (plain : Path.IsName name) :
    steps (base / name) = takenSteps base ++ [.enter name] := by
  have joined := steps_join_of_relative base (Path.isAbsolute_of_notMem plain.noSeparator)
  rw [steps_name plain] at joined
  exact joined

theorem takenSteps_join_name (base : Path) {name : String} (plain : Path.IsName name) :
    takenSteps (base / name) = takenSteps base ++ [.enter name] := by
  have joined :=
    takenSteps_join_of_relative base (Path.isAbsolute_of_notMem plain.noSeparator)
  rw [takenSteps_name plain] at joined
  exact joined

/-- A path whose text ends in what can only be part of a name enters that name last. -/
theorem exists_steps_eq_concat (path : Path) {front ending : List Char}
    (text : path.text.toList = front ++ ending) (noSeparator : '/' ∉ ending)
    (noDots : ∃ c ∈ ending, c ≠ '.') :
    ∃ init name, steps path = init ++ [.enter name] ∧ ending <:+ name.toList := by
  obtain ⟨init, piece, -, joined⟩ := Text.exists_splitAt_append '/' front noSeparator
  obtain ⟨c, member, other⟩ := noDots
  have isOther {text : String} (dots : ∀ d ∈ text.toList, d = '.') :
      String.ofList (piece ++ ending) ≠ text := by
    rintro rfl
    refine other (dots c ?_)
    rw [String.toList_ofList]
    exact List.mem_append_right piece member
  have step : stepOf (String.ofList (piece ++ ending)) =
      some (.enter (String.ofList (piece ++ ending))) := by
    rw [stepOf, if_neg (isOther (by simp)), if_neg (isOther (by simp)),
      if_neg (isOther (by simp))]
  have pieces : path.pieces = init.map String.ofList ++ [String.ofList (piece ++ ending)] := by
    rw [Path.pieces, text, joined, List.map_append, List.map_singleton]
  refine ⟨(init.map String.ofList).filterMap stepOf, String.ofList (piece ++ ending), ?_, ?_⟩
  · rw [steps, pieces, List.getLast?_concat,
      if_neg (fun same => isOther (by simp) (Option.some.inj same)), takenSteps, pieces,
      List.filterMap_append, List.filterMap_cons, step, List.filterMap_nil]
  · rw [String.toList_ofList]
    exact List.suffix_append piece ending

/-- A path that leads somewhere leads there also without separators at its end. -/
theorem Leads.of_steps {files : FileSystem} {links : Nat} {here location : Location} {path : Path}
    {passed : List Location}
    (leads : Leads files true links here (steps path) passed (.found location)) :
    Leads files true links here (takenSteps path) passed (.found location) := by
  rcases steps_eq_taken path with taken | taken
  · rwa [taken] at leads
  · rw [taken] at leads
    exact leads.of_append_stay

/-! ## Questions to a file system -/

variable {files : FileSystem} {path : Path} {last : Bool} {destination : Destination}

/-- The system accepts texts by their characters and their length. -/
theorem checkPath_eq_ok : checkPath path = .ok () ↔ '\x00' ∉ path.text.toList ∧
    path.text.toList ≠ [] ∧ (Utf8.encode path.text).length ≤ maxPathBytes := by
  simp only [checkPath, List.contains_iff_mem, List.isEmpty_iff]
  by_cases zero : '\x00' ∈ path.text.toList
  · simp [zero]
  · by_cases empty : path.text.toList = []
    · simp [empty]
    · simp [zero, empty]

theorem follow_eq_ok :
    files.follow path last = .ok destination ↔ checkPath path = .ok () ∧
      ∃ passed, Leads files last maxLinks (linkStart files.workingDirectory path) (steps path)
        passed destination := by
  rw [← followSteps_eq_ok, follow]
  cases checkPath path with
  | error error =>
    change Except.error error = _ ↔ _
    simp
  | ok accepted =>
    change followSteps files.root last maxLinks (linkStart files.workingDirectory path)
      (steps path) = _ ↔ _
    simp

theorem followName_eq_ok :
    files.followName path = .ok destination ↔ checkPath path = .ok () ∧
      ∃ passed, Leads files false maxLinks (linkStart files.workingDirectory path)
        (takenSteps path) passed destination := by
  rw [← followSteps_eq_ok, followName]
  cases checkPath path with
  | error error =>
    change Except.error error = _ ↔ _
    simp
  | ok accepted =>
    change followSteps files.root false maxLinks (linkStart files.workingDirectory path)
      (takenSteps path) = _ ↔ _
    simp

/-- A name that is free for a new folder is free, with separators after it or without. -/
theorem exists_follow_of_followName {folder : Location} {name : String}
    (free : files.followName path = .ok (.free folder name false)) :
    ∃ trailing, files.follow path false = .ok (.free folder name trailing) := by
  obtain ⟨accepted, passed, leads⟩ := followName_eq_ok.mp free
  rcases steps_eq_taken path with taken | taken
  · exact ⟨false, follow_eq_ok.mpr ⟨accepted, passed, taken ▸ leads⟩⟩
  · exact ⟨true, follow_eq_ok.mpr ⟨accepted, passed, taken ▸ leads.free_append_stay⟩⟩

/-- Without separators at the end of a path there is no difference. -/
theorem followName_eq_follow (same : steps path = takenSteps path) :
    files.followName path = files.follow path false := by
  rw [followName, follow, same]

/-- Where a path leads to something, there is something if separators at its end are dropped. -/
theorem exists_followName_of_follow {location : Location}
    (leads : files.follow path true = .ok (.found location)) :
    ∃ location', files.followName path = .ok (.found location') := by
  obtain ⟨accepted, passed, walk⟩ := follow_eq_ok.mp leads
  obtain ⟨passed', location', unfollowed, -⟩ := walk.of_steps.exists_unfollowed
  exact ⟨location', followName_eq_ok.mpr ⟨accepted, passed', unfollowed⟩⟩

theorem locate_eq_ok {location : Location} :
    files.locate path last = .ok location ↔ files.follow path last = .ok (.found location) := by
  rw [locate]
  cases files.follow path last with
  | error error => simp
  | ok destination => cases destination <;> simp

theorem find_eq_ok {location : Location} {node : Node} :
    files.find path last = .ok (location, node) ↔
      files.follow path last = .ok (.found location) ∧ files.root.get? location = some node := by
  rw [find, ← locate_eq_ok]
  cases files.locate path last with
  | error error => simp
  | ok place =>
    dsimp only
    cases there : files.root.get? place with
    | none =>
      refine ⟨nofun, fun ⟨same, found⟩ => ?_⟩
      cases same
      exact absurd (there.symm.trans found) nofun
    | some other =>
      constructor
      · intro same
        cases same
        exact ⟨rfl, there⟩
      · rintro ⟨same, found⟩
        cases same
        cases there.symm.trans found
        rfl

/-- A path below a folder leads to an entry of the folder, to a free name in it, or goes on at a
symbolic link in it. -/
theorem follow_join {folder : Location} {name : String} (plain : Path.IsName name)
    (base : files.locate path true = .ok folder)
    (below : files.follow (path / name) last = .ok destination) :
    files.entryAt folder = some .folder ∧
      (destination = .free folder name false ∧ files.entryAt (folder ++ [name]) = none ∨
        destination = .found (folder ++ [name]) ∧
          files.entryAt (folder ++ [name]) ≠ none ∨
        ∃ target, files.entryAt (folder ++ [name]) = some (.link target)) := by
  obtain ⟨-, passed, front⟩ := follow_eq_ok.mp (locate_eq_ok.mp base)
  obtain ⟨-, passed', whole⟩ := follow_eq_ok.mp below
  have start : linkStart files.workingDirectory (path / name) =
      linkStart files.workingDirectory path := by
    rw [linkStart, linkStart, Path.isAbsolute_join path plain.noSeparator]
  rw [start, steps_join_name path plain] at whole
  -- A separator at the end of the first path is not there in the joined one.
  have toFolder := front.of_steps
  obtain ⟨left, rest, entering⟩ := toFolder.of_append whole (List.cons_ne_nil _ _)
  cases entering with
  | enter inside _ there _ onward =>
    cases onward
    exact ⟨inside, .inr (.inl ⟨rfl, by rw [there]; exact Option.some_ne_none _⟩)⟩
  | vacant inside _ nothing => exact ⟨inside, .inl ⟨rfl, nothing⟩⟩
  | halt inside _ there => exact ⟨inside, .inr (.inr ⟨_, there⟩)⟩
  | link inside _ there => exact ⟨inside, .inr (.inr ⟨_, there⟩)⟩

end FileSystem
end ReleasePacker
