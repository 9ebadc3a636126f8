import ReleasePacker.Proofs.FileSystem.Effects

/-!
# Links that are used as folders

A symbolic link can be the end of a path, and then it stands for what it leads to, or the path can
go on from it, and then it stands for a folder. If a file takes the place of a link, paths of the
first kind still lead somewhere, namely to that file, and only those of the second kind are broken.
-/

namespace ReleasePacker.FileSystem

/-- The links from which steps go on. -/
def crossedSteps (root : Node) : (links : Nat) → Location → List Step → List Location
  | links, here, path =>
    match walk root here path with
    | .link folder name target rest =>
      (if rest.isEmpty then [] else [folder ++ [name]]) ++
        match links with
        | 0 => []
        | links + 1 => crossedSteps root links (linkStart folder target) (steps target ++ rest)
    | _ => []

/-- The links from which a path goes on. -/
def crossed (files : FileSystem) (path : Path) : List Location :=
  crossedSteps files.root maxLinks (linkStart files.workingDirectory path) (steps path)

/-- Whether none of some paths went on from a link in the place where a file is now. -/
def passedBy (after : FileSystem) (file : Path) (before : FileSystem) (paths : List Path) : Bool :=
  match after.locate file with
  | .ok place => paths.all fun path => !(before.crossed path).contains place
  | .error _ => true

theorem notMem_crossed_of_passedBy {after before : FileSystem} {file : Path} {place : Location}
    {paths : List Path} (located : after.locate file = .ok place)
    (passed : after.passedBy file before paths = true) :
    ∀ path ∈ paths, place ∉ before.crossed path := by
  rw [passedBy, located] at passed
  simpa using passed

section

variable {files : FileSystem} {links : Nat} {here : Location} {rest : List Step} {name : String}

theorem crossedSteps_stay (inside : files.entryAt here = some .folder) :
    crossedSteps files.root links here (.stay :: rest) =
      crossedSteps files.root links here rest := by
  obtain ⟨children, found⟩ := entryAt_eq_folder.mp inside
  unfold crossedSteps
  rw [walk, found]

theorem crossedSteps_up (inside : files.entryAt here = some .folder) :
    crossedSteps files.root links here (.up :: rest) =
      crossedSteps files.root links here.dropLast rest := by
  obtain ⟨children, found⟩ := entryAt_eq_folder.mp inside
  unfold crossedSteps
  rw [walk, found]

/-- No link is crossed by entering what is none. -/
theorem crossedSteps_enter {entry : Entry} (inside : files.entryAt here = some .folder)
    (short : (Utf8.encode name).length ≤ maxNameBytes)
    (there : files.entryAt (here ++ [name]) = some entry)
    (noLink : ∀ target, entry ≠ .link target) :
    crossedSteps files.root links here (.enter name :: rest) =
      crossedSteps files.root links (here ++ [name]) rest := by
  obtain ⟨children, found⟩ := entryAt_eq_folder.mp inside
  have child : children.lookup name = files.root.get? (here ++ [name]) := by
    rw [Node.get?_concat, found]
    rfl
  obtain ⟨node, held, same⟩ := get?_isSome_of_entryAt there
  unfold crossedSteps
  rw [walk, found]
  dsimp only
  rw [if_neg (Nat.not_lt.mpr short), child, held]
  cases node with
  | link target => exact absurd same.symm (noLink target)
  | file | broken | folder => rfl

/-- A link is crossed if steps follow it. -/
theorem crossedSteps_link {target : Path} (inside : files.entryAt here = some .folder)
    (short : (Utf8.encode name).length ≤ maxNameBytes)
    (there : files.entryAt (here ++ [name]) = some (.link target)) :
    crossedSteps files.root (links + 1) here (.enter name :: rest) =
      (if rest.isEmpty then [] else [here ++ [name]]) ++
        crossedSteps files.root links (linkStart here target) (steps target ++ rest) := by
  obtain ⟨children, found⟩ := entryAt_eq_folder.mp inside
  have child : children.lookup name = files.root.get? (here ++ [name]) := by
    rw [Node.get?_concat, found]
    rfl
  obtain ⟨node, held, same⟩ := get?_isSome_of_entryAt there
  cases node with
  | file | broken | folder => cases same
  | link other =>
    cases same
    conv_lhs => unfold crossedSteps
    rw [walk, found]
    dsimp only
    rw [if_neg (Nat.not_lt.mpr short), child, held]

end

/-! ## A file in the place of a link -/

/-- Of all that existed, nothing is another thing but for a file that took a place. -/
structure Overwritten (before : FileSystem) (place : Location) (after : FileSystem) : Prop where
  workingDirectory : after.workingDirectory = before.workingDirectory
  noFolder : before.entryAt place ≠ some .folder
  placed : ∃ mode content, after.entryAt place = some (.file mode content)
  kept : ∀ l, before.entryAt l ≠ none → l ≠ place → after.entryAt l = before.entryAt l

theorem Overwritten.sameShape {before after : FileSystem} {place l : Location} {entry : Entry}
    (overwritten : before.Overwritten place after) (there : before.entryAt l = some entry)
    (other : l ≠ place) : SameShape before after l :=
  .of_eq (overwritten.kept l (by rw [there]; exact Option.some_ne_none _) other).symm

namespace Leads

variable {files before after : FileSystem} {last : Bool} {links : Nat} {here location : Location}
  {path : List Step} {passed : List Location} {destination : Destination}

/-- If at most one thing has become a file, and a path does not go on from there, the path leads to
the same place or to that file. -/
theorem exists_of_overwritten {place : Location}
    (leads : Leads before true links here path passed (.found location))
    (start : SameShape before after here) (overwritten : before.Overwritten place after)
    (apart : place ∉ crossedSteps before.root links here path) :
    ∃ passed' location', Leads after true links here path passed' (.found location') ∧
      (location' = location ∨ location' = place) := by
  obtain ⟨mode, content, placed⟩ := overwritten.placed
  -- Both walks take the same steps until they come to the place, where the second one ends.
  generalize ending : Destination.found location = destination at leads
  induction leads with
  | done =>
    cases ending
    exact ⟨_, _, .done, .inl rfl⟩
  | stay inside _ ih =>
    rw [crossedSteps_stay inside] at apart
    obtain ⟨_, _, onward, arrives⟩ := ih start apart ending
    exact ⟨_, _, .stay (start.folder inside) onward, arrives⟩
  | up inside _ ih =>
    rw [crossedSteps_up inside] at apart
    obtain ⟨_, _, onward, arrives⟩ := ih (.dropLast inside (start.folder inside)) apart ending
    exact ⟨_, _, .up (start.folder inside) onward, arrives⟩
  | vacant => cases ending
  | halt _ _ _ unfollowed => cases unfollowed
  | @enter links here name rest passed destination entry inside short there noLink onward ih =>
    rw [crossedSteps_enter inside short there noLink] at apart
    by_cases same : here ++ [name] = place
    -- What was in the place is neither a link nor a folder, so the walk ended there before.
    · subst same
      obtain rfl := onward.eq_nil_of_ne_folder overwritten.noFolder
      exact ⟨_, _, .enter (start.folder inside) short placed nofun .done, .inr rfl⟩
    · have sameEntry := overwritten.sameShape there same
      obtain ⟨entry', there', noLink'⟩ := sameEntry.other there noLink
      obtain ⟨_, _, onward', arrives⟩ := ih sameEntry apart ending
      exact ⟨_, _, .enter (start.folder inside) short there' noLink' onward', arrives⟩
  | @link links here name rest target passed destination inside short there followed onward ih =>
    rw [crossedSteps_link inside short there, List.mem_append, not_or] at apart
    by_cases same : here ++ [name] = place
    · subst same
      cases rest with
      | nil => exact ⟨_, _, .enter (start.folder inside) short placed nofun .done, .inr rfl⟩
      | cons step rest => exact absurd (List.mem_singleton_self _) apart.1
    · obtain ⟨_, _, onward', arrives⟩ :=
        ih (.linkStart inside (start.folder inside) _) apart.2 ending
      exact ⟨_, _, .link (start.folder inside) short
        ((overwritten.sameShape there same).link there) followed onward', arrives⟩

/-! ## Longer and shorter paths -/

/-- A path goes on from where a shorter one leads. -/
theorem append {folder : Location} {more : List Step} {passed' : List Location}
    (front : Leads files true links here path passed (.found folder)) (goesOn : more ≠ [])
    (onward : ∀ left, Leads files last left folder more passed' destination) :
    Leads files last links here (path ++ more) (passed ++ passed') destination := by
  generalize ending : Destination.found folder = middle at front
  induction front with
  | done =>
    cases ending
    exact onward _
  | stay inside _ ih => exact .stay inside (ih ending)
  | up inside _ ih => exact .up inside (ih ending)
  | enter inside short there noLink _ ih => exact .enter inside short there noLink (ih ending)
  | vacant => cases ending
  | halt _ _ _ unfollowed => cases unfollowed
  | link inside short there _ _ ih =>
    have further := ih ending
    rw [List.append_assoc] at further
    exact .link inside short there (.inl (List.append_ne_nil_of_right_ne_nil _ goesOn)) further

/-- Steps that come to an entry or a free name lead through a folder, where the rest of them is
taken. -/
theorem exists_front {more : List Step}
    (whole : Leads files last links here (path ++ more) passed destination)
    (moves : ∃ step ∈ more, step ≠ .stay) :
    ∃ passed' folder left rest, Leads files true links here path passed' (.found folder) ∧
      Leads files last left folder more rest destination := by
  -- The walk is cut where the first of the steps that remain is to be taken.
  generalize all : path ++ more = steps at whole
  induction whole generalizing path with
  | done =>
    obtain ⟨step, member, -⟩ := moves
    rw [(List.append_eq_nil_iff.mp all).2] at member
    cases member
  | stay inside onward ih =>
    cases path with
    | nil =>
      obtain rfl : more = _ := all
      exact ⟨_, _, _, _, .done, .stay inside onward⟩
    | cons step rest =>
      cases all
      obtain ⟨_, _, _, _, front, others⟩ := ih rfl
      exact ⟨_, _, _, _, .stay inside front, others⟩
  | up inside onward ih =>
    cases path with
    | nil =>
      obtain rfl : more = _ := all
      exact ⟨_, _, _, _, .done, .up inside onward⟩
    | cons step rest =>
      cases all
      obtain ⟨_, _, _, _, front, others⟩ := ih rfl
      exact ⟨_, _, _, _, .up inside front, others⟩
  | enter inside short there noLink onward ih =>
    cases path with
    | nil =>
      obtain rfl : more = _ := all
      exact ⟨_, _, _, _, .done, .enter inside short there noLink onward⟩
    | cons step rest =>
      cases all
      obtain ⟨_, _, _, _, front, others⟩ := ih rfl
      exact ⟨_, _, _, _, .enter inside short there noLink front, others⟩
  | @vacant links here name rest inside short nothing stays =>
    cases path with
    | nil =>
      obtain rfl : more = _ := all
      exact ⟨_, _, links, _, .done, .vacant inside short nothing stays⟩
    | cons step front =>
      -- After a free name only separators follow, which come to nothing else.
      cases all
      obtain ⟨step, member, other⟩ := moves
      have stay := List.all_eq_true.mp stays step (List.mem_append_right front member)
      exact absurd (of_decide_eq_true stay) other
  | @halt links here name target inside short there unfollowed =>
    cases path with
    | nil =>
      obtain rfl : more = _ := all
      exact ⟨_, _, links, _, .done, .halt inside short there unfollowed⟩
    | cons step front =>
      obtain ⟨step, member, -⟩ := moves
      rw [(List.append_eq_nil_iff.mp (List.cons.inj all).2).2] at member
      cases member
  | link inside short there followed onward ih =>
    cases path with
    | nil =>
      obtain rfl : more = _ := all
      exact ⟨_, _, _, _, .done, .link inside short there followed onward⟩
    | cons step rest =>
      cases all
      obtain ⟨_, _, _, _, front, others⟩ := ih (List.append_assoc _ _ _)
      exact ⟨_, _, _, _, .link inside short there (.inr rfl) front, others⟩

/-- What is passed by a walk through folders has the names that are entered. -/
theorem of_names {names : List String}
    (leads : Leads files last links (here ++ names) path passed destination)
    (folders : ∀ front, front <+: names → files.entryAt (here ++ front) = some .folder)
    (short : ∀ name ∈ names, (Utf8.encode name).length ≤ maxNameBytes) :
    ∃ passed', Leads files last links here (names.map .enter ++ path) passed' destination := by
  induction names generalizing here with
  | nil =>
    rw [List.append_nil] at leads
    exact ⟨_, leads⟩
  | cons name rest ih =>
    rw [List.forall_mem_cons] at short
    have inside := folders [] (List.nil_prefix)
    have there := folders [name] ⟨rest, rfl⟩
    rw [List.append_nil] at inside
    have next : here ++ name :: rest = here ++ [name] ++ rest := by simp
    rw [next] at leads
    obtain ⟨_, onward⟩ := ih leads (fun front below => by
      have deeper := folders (name :: front) (List.cons_prefix_cons.mpr ⟨rfl, below⟩)
      rwa [List.append_assoc, List.singleton_append]) short.2
    exact ⟨_, .enter inside short.1 there nofun onward⟩

/-- A folder can hold all the names that a path enters. -/
theorem short_of_mem {name : String} (leads : Leads files last links here path passed destination)
    (inside : .enter name ∈ path) : (Utf8.encode name).length ≤ maxNameBytes := by
  induction leads with
  | done => cases inside
  | stay _ _ ih => exact ih ((List.mem_cons.mp inside).resolve_left nofun)
  | up _ _ ih => exact ih ((List.mem_cons.mp inside).resolve_left nofun)
  | enter _ short _ _ _ ih =>
    rcases List.mem_cons.mp inside with same | later
    · cases same
      exact short
    · exact ih later
  | vacant _ short _ stays =>
    rcases List.mem_cons.mp inside with same | later
    · cases same
      exact short
    · exact absurd (of_decide_eq_true (List.all_eq_true.mp stays _ later)) nofun
  | halt _ short =>
    cases List.mem_singleton.mp inside
    exact short
  | link _ short _ _ _ ih =>
    rcases List.mem_cons.mp inside with same | later
    · cases same
      exact short
    · exact ih (List.mem_append_right _ later)

end Leads

/-! ## Names in a folder -/

/-- The steps of a path lead to a folder. -/
def EntersFolder (files : FileSystem) (path : Path) (folder : Location) : Prop :=
  files.entryAt folder = some .folder ∧ ∃ passed,
    Leads files true maxLinks (linkStart files.workingDirectory path) (takenSteps path) passed
      (.found folder)

/-- A separator at the end asks for a folder. -/
theorem steps_join_empty (path : Path) : steps (path / "") = takenSteps path ++ [.stay] :=
  steps_join_of_relative path (by decide)

theorem linkStart_join (location : Location) (path : Path) {other : Path}
    (relative : other.isAbsolute = false) :
    linkStart location (path.join other) = linkStart location path := by
  rw [linkStart, linkStart, Path.isAbsolute_join_of_relative path relative]

theorem linkStart_join_empty (location : Location) (path : Path) :
    linkStart location (path / "") = linkStart location path :=
  linkStart_join location path (by decide)

theorem linkStart_join_name (location : Location) (path : Path) {name : String}
    (plain : Path.IsName name) : linkStart location (path / name) = linkStart location path :=
  linkStart_join location path (Path.isAbsolute_of_notMem plain.noSeparator)

section

variable {files after : FileSystem} {path : Path} {folder : Location} {name : String} {last : Bool}
  {destination : Destination}

/-- A path below another one that leads to an entry or a free name leads through a folder. -/
theorem exists_entersFolder {other : Path} (relative : other.isAbsolute = false)
    (moves : ∃ step ∈ steps other, step ≠ .stay)
    (leads : files.follow (path.join other) last = .ok destination) :
    ∃ folder left rest, files.EntersFolder path folder ∧
      Leads files last left folder (steps other) rest destination := by
  obtain ⟨-, passed, whole⟩ := follow_eq_ok.mp leads
  rw [linkStart_join _ path relative, steps_join_of_relative path relative] at whole
  obtain ⟨passed', folder, left, rest, front, others⟩ := whole.exists_front moves
  refine ⟨folder, left, rest, ⟨others.start_folder fun none => ?_, passed', front⟩, others⟩
  obtain ⟨step, member, -⟩ := moves
  rw [none] at member
  cases member

/-- A path that ends in a name is the path of an entry of a folder, or of a free name in it. -/
theorem exists_entersFolder_of_name (plain : Path.IsName name)
    (leads : files.follow (path / name) last = .ok destination) :
    ∃ folder, files.EntersFolder path folder := by
  have ends := steps_name plain
  obtain ⟨folder, -, -, enters, -⟩ :=
    exists_entersFolder (Path.isAbsolute_of_notMem plain.noSeparator)
      ⟨.enter name, by rw [ends]; exact List.mem_singleton_self _, nofun⟩ leads
  exact ⟨folder, enters⟩

/-- The name at the end of a path is one that a folder can hold. -/
theorem length_le_of_follow (plain : Path.IsName name)
    (leads : files.follow (path / name) last = .ok destination) :
    (Utf8.encode name).length ≤ maxNameBytes := by
  obtain ⟨-, passed, whole⟩ := follow_eq_ok.mp leads
  rw [steps_join_name path plain] at whole
  exact whole.short_of_mem (List.mem_append_right _ (List.mem_singleton_self _))

namespace EntersFolder

theorem unique {other : Location} (enters : files.EntersFolder path folder)
    (enters' : files.EntersFolder path other) : folder = other := by
  obtain ⟨-, _, leads⟩ := enters
  obtain ⟨-, _, leads'⟩ := enters'
  exact Destination.found.inj (leads.unique leads')

theorem of_locate (located : files.locate path = .ok folder)
    (there : files.entryAt folder = some .folder) : files.EntersFolder path folder := by
  obtain ⟨-, passed, leads⟩ := follow_eq_ok.mp (locate_eq_ok.mp located)
  exact ⟨there, passed, leads.of_steps⟩

/-- A path that the system accepts leads to the folder. -/
theorem locate (enters : files.EntersFolder path folder) (accepted : checkPath path = .ok ()) :
    files.locate path = .ok folder := by
  obtain ⟨inside, passed, leads⟩ := enters
  refine locate_eq_ok.mpr (follow_eq_ok.mpr ⟨accepted, ?_⟩)
  rcases steps_eq_taken path with taken | taken <;> rw [taken]
  · exact ⟨passed, leads⟩
  · exact ⟨_, leads.append (List.cons_ne_nil _ _) fun _ => .stay inside .done⟩

/-- A name that the folder does not have is free. -/
theorem follow_free (enters : files.EntersFolder path folder) (plain : Path.IsName name)
    (accepted : checkPath (path / name) = .ok ())
    (short : (Utf8.encode name).length ≤ maxNameBytes)
    (nothing : files.entryAt (folder ++ [name]) = none) :
    files.follow (path / name) last = .ok (.free folder name false) := by
  obtain ⟨inside, passed, leads⟩ := enters
  refine follow_eq_ok.mpr ⟨accepted, passed ++ [], ?_⟩
  rw [linkStart_join_name _ path plain, steps_join_name path plain]
  exact leads.append (List.cons_ne_nil _ _) fun _ => .vacant inside short nothing rfl

/-- A name that the folder has leads to its entry, unless that is a link that is followed. -/
theorem follow_found {entry : Entry} (enters : files.EntersFolder path folder)
    (plain : Path.IsName name) (accepted : checkPath (path / name) = .ok ())
    (short : (Utf8.encode name).length ≤ maxNameBytes)
    (there : files.entryAt (folder ++ [name]) = some entry)
    (unfollowed : last = true → ∀ target, entry ≠ .link target) :
    files.follow (path / name) last = .ok (.found (folder ++ [name])) := by
  obtain ⟨inside, passed, leads⟩ := enters
  refine follow_eq_ok.mpr ⟨accepted, passed ++ [folder ++ [name]], ?_⟩
  rw [linkStart_join_name _ path plain, steps_join_name path plain]
  refine leads.append (List.cons_ne_nil _ _) fun left => ?_
  by_cases link : ∃ target, entry = .link target
  · obtain ⟨target, rfl⟩ := link
    exact .halt inside short there (Bool.eq_false_iff.mpr fun follows => unfollowed follows _ rfl)
  · exact .enter inside short there (fun target same => link ⟨target, same⟩) .done

/-- A path still enters a folder if all that existed is kept. -/
theorem of_kept (enters : files.EntersFolder path folder)
    (workingDirectory : after.workingDirectory = files.workingDirectory)
    (kept : ∀ l, files.entryAt l ≠ none → SameShape files after l) :
    after.EntersFolder path folder := by
  obtain ⟨inside, passed, leads⟩ := enters
  refine ⟨(kept folder (by rw [inside]; exact nofun)).folder inside, passed, ?_⟩
  rw [workingDirectory]
  exact leads.of_kept kept

end EntersFolder

end

/-! ## Paths to files and folders -/

namespace Overwritten

variable {before after : FileSystem} {place : Location} {path : Path}

/-- A path that does not go on from the place still leads somewhere. -/
theorem exists_leads {location : Location} {passed : List Location}
    (overwritten : before.Overwritten place after)
    (leads : Leads before true maxLinks (linkStart before.workingDirectory path) (steps path) passed
      (.found location)) (apart : place ∉ before.crossed path) :
    ∃ passed' location', Leads after true maxLinks (linkStart after.workingDirectory path)
      (steps path) passed' (.found location') ∧ (location' = location ∨ location' = place) := by
  have inside := leads.start_folder (steps_ne_nil path)
  rw [overwritten.workingDirectory]
  refine leads.exists_of_overwritten (overwritten.sameShape inside ?_) overwritten apart
  intro same
  exact overwritten.noFolder (same ▸ inside)

/-- What is no folder is still found, if the path does not go on from the place, or else the file
that was put there. -/
theorem find_or_placed {location : Location} {node : Node} (leaf : node.entry ≠ .folder)
    (overwritten : before.Overwritten place after)
    (found : before.find path = .ok (location, node)) (apart : place ∉ before.crossed path) :
    ∃ location' node', after.find path = .ok (location', node') ∧
      (node' = node ∨ ∃ mode content, node' = .file mode content) := by
  obtain ⟨leads, held⟩ := find_eq_ok.mp found
  obtain ⟨accepted, passed, leads⟩ := follow_eq_ok.mp leads
  obtain ⟨passed', location', leads', arrives⟩ := overwritten.exists_leads leads apart
  have leads' := follow_eq_ok.mpr ⟨accepted, passed', leads'⟩
  by_cases same : location' = place
  · obtain ⟨mode, content, placed⟩ := overwritten.placed
    exact ⟨location', _, find_eq_ok.mpr ⟨leads', get?_eq_file.mpr (same ▸ placed)⟩,
      .inr ⟨mode, content, rfl⟩⟩
  · obtain rfl := arrives.resolve_right same
    rw [get?_eq_leaf leaf] at held
    refine ⟨location', node, find_eq_ok.mpr ⟨leads', (get?_eq_leaf leaf).mpr ?_⟩, .inl rfl⟩
    rw [overwritten.kept _ (by rw [held]; exact nofun) same, held]

/-- A path that led to a file that can be read still does, if it does not go on from the place. -/
theorem exists_find {location : Location} {mode : Nat} {content : Bytes}
    (overwritten : before.Overwritten place after)
    (found : before.find path = .ok (location, .file mode content))
    (apart : place ∉ before.crossed path) :
    ∃ location' mode' content', after.find path = .ok (location', .file mode' content') := by
  have leaf : (Node.file mode content).entry ≠ .folder := nofun
  obtain ⟨location', node, found', rfl | ⟨mode', content', rfl⟩⟩ :=
    overwritten.find_or_placed leaf found apart
  · exact ⟨location', mode, content, found'⟩
  · exact ⟨location', mode', content', found'⟩

theorem isFile (overwritten : before.Overwritten place after) (apart : place ∉ before.crossed path)
    (file : before.isFile path = true) : after.isFile path = true := by
  obtain ⟨location, node, opened, found, regular⟩ := isFile_eq_true.mp file
  obtain ⟨location', node', found', rfl | ⟨mode, content, rfl⟩⟩ :=
    overwritten.find_or_placed (node.leaf_of_reading regular) found apart
  · exact isFile_eq_true.mpr ⟨location', node', opened, found', regular⟩
  · exact isFile_eq_true.mpr ⟨location', _, _, found', rfl⟩

/-- A path that entered a folder still does, if it does not go on from the place. -/
theorem entersFolder {folder : Location} (overwritten : before.Overwritten place after)
    (enters : before.EntersFolder path folder) (apart : place ∉ before.crossed (path / "")) :
    after.EntersFolder path folder := by
  obtain ⟨inside, passed, leads⟩ := enters
  obtain ⟨mode, content, placed⟩ := overwritten.placed
  -- With a separator at its end the path can only lead to a folder, and not to the file.
  have whole : Leads before true maxLinks (linkStart before.workingDirectory (path / ""))
      (steps (path / "")) (passed ++ []) (.found folder) := by
    rw [linkStart_join_empty, steps_join_empty]
    exact leads.append (List.cons_ne_nil _ _) fun _ => .stay inside .done
  obtain ⟨passed', location, leads', arrives⟩ := overwritten.exists_leads whole apart
  rw [linkStart_join_empty, steps_join_empty] at leads'
  have front := leads'.of_append_stay
  have folder' : after.entryAt location = some .folder := by
    obtain ⟨left, rest, staying⟩ := front.of_append leads' (List.cons_ne_nil _ _)
    exact staying.start_folder (List.cons_ne_nil _ _)
  obtain rfl : location = folder := by
    refine arrives.resolve_right ?_
    rintro rfl
    cases placed.symm.trans folder'
  exact ⟨folder', passed', front⟩

end Overwritten

end ReleasePacker.FileSystem
