import ReleasePacker.Proofs.FileSystem.Entries

/-!
# Where paths lead

Following a path is a recursion in two layers, the walk between two symbolic links and the walk
through them. Here it is seen as one relation with a case for every kind of step, which also
keeps the locations that are passed, so that facts about paths are inductions over it.

## Main definitions

* `FileSystem.Leads` — steps lead from a location to a destination
* `FileSystem.SameShape` — a location holds the same kind of thing in two file systems

## Main results

* `FileSystem.followSteps_eq_ok`, `FileSystem.follow_eq_ok` — following is this relation
* `FileSystem.Leads.transfer` — a path leads to the same place if what it passes is the same
* `FileSystem.Leads.of_replaced` — the only other place is a link that has become a file
* `FileSystem.Leads.of_append` — following a longer path goes on where the shorter one leads
-/

namespace ReleasePacker

/-- What is held, but for what a file contains. -/
def Entry.shape : Entry → Entry
  | .file _ _ | .broken _ _ _ => .file 0 []
  | .link target => .link target
  | .folder => .folder

namespace FileSystem

/-- A location holds a file, a folder or the same symbolic link in both file systems, or nothing
in either. -/
def SameShape (before after : FileSystem) (location : Location) : Prop :=
  (before.entryAt location).map Entry.shape = (after.entryAt location).map Entry.shape

/-- Where following the target of a symbolic link in a folder starts. -/
def linkStart (folder : Location) (target : Path) : Location :=
  if target.isAbsolute then [] else folder

/-! ## Following step by step -/

section Steps

variable {files : FileSystem} {last : Bool} {links : Nat} {here : Location} {rest : List Step}

theorem followSteps_nil : followSteps files.root last links here [] = .ok (.found here) := by
  unfold followSteps
  rfl

theorem followSteps_cons_of_not_folder (other : files.entryAt here ≠ some .folder) (step : Step) :
    followSteps files.root last links here (step :: rest) = .error .notDirectory := by
  unfold followSteps
  rw [walk]
  cases found : files.root.get? here with
  | none => rfl
  | some node =>
    cases node with
    | folder children => exact absurd (entryAt_of_get? found) other
    | file | broken => rfl
    | link target => rfl

theorem followSteps_stay (inside : files.entryAt here = some .folder) :
    followSteps files.root last links here (.stay :: rest) =
      followSteps files.root last links here rest := by
  obtain ⟨children, found⟩ := entryAt_eq_folder.mp inside
  unfold followSteps
  rw [walk, found]

theorem followSteps_up (inside : files.entryAt here = some .folder) :
    followSteps files.root last links here (.up :: rest) =
      followSteps files.root last links here.dropLast rest := by
  obtain ⟨children, found⟩ := entryAt_eq_folder.mp inside
  unfold followSteps
  rw [walk, found]

/-- What becomes of entering something depends on what is there. -/
theorem followSteps_enter (inside : files.entryAt here = some .folder) (name : String) :
    followSteps files.root last links here (.enter name :: rest) =
      if maxNameBytes < (Utf8.encode name).length then .error .nameTooLong
      else
        match files.entryAt (here ++ [name]) with
        | none =>
          if rest.all (· = .stay) then .ok (.free here name (!rest.isEmpty)) else .error .noEntry
        | some (.link target) =>
          if rest.isEmpty && !last then .ok (.found (here ++ [name]))
          else
            match links with
            | 0 => .error .linkLoop
            | links + 1 =>
              followSteps files.root last links (linkStart here target) (steps target ++ rest)
        | some _ => followSteps files.root last links (here ++ [name]) rest := by
  obtain ⟨children, found⟩ := entryAt_eq_folder.mp inside
  have there : files.root.get? (here ++ [name]) = children.lookup name := by
    rw [Node.get?_concat, found]
    rfl
  -- The right-hand side goes on with the same function, which must stay folded there.
  conv_lhs => unfold followSteps
  rw [walk, found, entryAt, Node.entryAt, there]
  dsimp only
  by_cases long : maxNameBytes < (Utf8.encode name).length
  · rw [if_pos long, if_pos long]
  · rw [if_neg long, if_neg long]
    cases child : children.lookup name with
    | none => rfl
    | some node =>
      cases node with
      | link target => cases links <;> rfl
      | file | broken =>
        change _ = followSteps files.root last links (here ++ [name]) rest
        conv_rhs => unfold followSteps
      | folder inner =>
        change _ = followSteps files.root last links (here ++ [name]) rest
        conv_rhs => unfold followSteps

end Steps

/-! ## The relation -/

/-- From a location, steps lead to a destination by way of the locations passed, through at most
so many symbolic links. -/
inductive Leads (files : FileSystem) (last : Bool) :
    (links : Nat) → Location → List Step → (passed : List Location) → Destination → Prop
  | done {links : Nat} {here : Location} : Leads files last links here [] [] (.found here)
  | stay {links : Nat} {here : Location} {rest : List Step} {passed : List Location}
    {destination : Destination} (inside : files.entryAt here = some .folder)
    (onward : Leads files last links here rest passed destination) :
    Leads files last links here (.stay :: rest) passed destination
  | up {links : Nat} {here : Location} {rest : List Step} {passed : List Location}
    {destination : Destination} (inside : files.entryAt here = some .folder)
    (onward : Leads files last links here.dropLast rest passed destination) :
    Leads files last links here (.up :: rest) passed destination
  | enter {links : Nat} {here : Location} {name : String} {rest : List Step}
    {passed : List Location} {destination : Destination} {entry : Entry}
    (inside : files.entryAt here = some .folder)
    (short : (Utf8.encode name).length ≤ maxNameBytes)
    (there : files.entryAt (here ++ [name]) = some entry) (noLink : ∀ target, entry ≠ .link target)
    (onward : Leads files last links (here ++ [name]) rest passed destination) :
    Leads files last links here (.enter name :: rest) ((here ++ [name]) :: passed) destination
  | vacant {links : Nat} {here : Location} {name : String} {rest : List Step}
    (inside : files.entryAt here = some .folder)
    (short : (Utf8.encode name).length ≤ maxNameBytes)
    (nothing : files.entryAt (here ++ [name]) = none) (stays : rest.all (· = .stay)) :
    Leads files last links here (.enter name :: rest) [] (.free here name (!rest.isEmpty))
  | halt {links : Nat} {here : Location} {name : String} {target : Path}
    (inside : files.entryAt here = some .folder)
    (short : (Utf8.encode name).length ≤ maxNameBytes)
    (there : files.entryAt (here ++ [name]) = some (.link target)) (unfollowed : last = false) :
    Leads files last links here [.enter name] [here ++ [name]] (.found (here ++ [name]))
  | link {links : Nat} {here : Location} {name : String} {rest : List Step} {target : Path}
    {passed : List Location} {destination : Destination}
    (inside : files.entryAt here = some .folder)
    (short : (Utf8.encode name).length ≤ maxNameBytes)
    (there : files.entryAt (here ++ [name]) = some (.link target))
    (followed : rest ≠ [] ∨ last = true)
    (onward : Leads files last links (linkStart here target) (steps target ++ rest) passed
      destination) :
    Leads files last (links + 1) here (.enter name :: rest) ((here ++ [name]) :: passed) destination

variable {files before after : FileSystem} {last : Bool} {links : Nat} {here : Location}
  {path : List Step} {passed : List Location} {destination : Destination}

theorem Leads.followSteps_eq (leads : Leads files last links here path passed destination) :
    followSteps files.root last links here path = .ok destination := by
  induction leads with
  | done => exact followSteps_nil
  | stay inside _ ih => rw [followSteps_stay inside, ih]
  | up inside _ ih => rw [followSteps_up inside, ih]
  | @enter links here name rest passed destination entry inside short there noLink _ ih =>
    rw [followSteps_enter inside, if_neg (Nat.not_lt.mpr short), there]
    cases entry with
    | link target => exact absurd rfl (noLink target)
    | file | broken => exact ih
    | folder => exact ih
  | vacant inside short nothing stays =>
    rw [followSteps_enter inside, if_neg (Nat.not_lt.mpr short), nothing]
    exact if_pos stays
  | halt inside short there unfollowed =>
    rw [followSteps_enter inside, if_neg (Nat.not_lt.mpr short), there, unfollowed]
    rfl
  | @link links here name rest target passed destination inside short there followed _ ih =>
    rw [followSteps_enter inside, if_neg (Nat.not_lt.mpr short), there]
    have goesOn : (rest.isEmpty && !last) = false := by
      rcases followed with more | rfl
      · simp [List.isEmpty_eq_false_iff.mpr more]
      · simp
    dsimp only
    rw [goesOn]
    exact ih

/-- One step: what follows it takes fewer steps or goes through fewer links. -/
theorem leads_of_followSteps_cons {step : Step} {rest : List Step}
    (arrived : followSteps files.root last links here (step :: rest) = .ok destination)
    (shorter : ∀ there, followSteps files.root last links there rest = .ok destination →
      ∃ passed, Leads files last links there rest passed destination)
    (fewer : ∀ left there path, links = left + 1 →
      followSteps files.root last left there path = .ok destination →
      ∃ passed, Leads files last left there path passed destination) :
    ∃ passed, Leads files last links here (step :: rest) passed destination := by
  -- Success rules out each branch that is an error, and the others are the cases of the relation.
  by_cases inside : files.entryAt here = some .folder
  swap
  · rw [followSteps_cons_of_not_folder inside] at arrived
    cases arrived
  cases step with
  | stay =>
    rw [followSteps_stay inside] at arrived
    exact (shorter _ arrived).imp fun _ => .stay inside
  | up =>
    rw [followSteps_up inside] at arrived
    exact (shorter _ arrived).imp fun _ => .up inside
  | enter name =>
    rw [followSteps_enter inside] at arrived
    by_cases long : maxNameBytes < (Utf8.encode name).length
    · rw [if_pos long] at arrived
      cases arrived
    rw [if_neg long] at arrived
    have short := Nat.not_lt.mp long
    cases there : files.entryAt (here ++ [name]) with
    | none =>
      rw [there] at arrived
      by_cases stays : rest.all (· = .stay)
      · rw [if_pos stays] at arrived
        cases arrived
        exact ⟨[], .vacant inside short there stays⟩
      · rw [if_neg stays] at arrived
        cases arrived
    | some entry =>
      rw [there] at arrived
      cases entry with
      | file | broken =>
        obtain ⟨passed, onward⟩ := shorter _ arrived
        exact ⟨_, .enter inside short there nofun onward⟩
      | folder =>
        obtain ⟨passed, onward⟩ := shorter _ arrived
        exact ⟨_, .enter inside short there nofun onward⟩
      | link target =>
        dsimp only at arrived
        by_cases halts : rest = [] ∧ last = false
        · obtain ⟨rfl, unfollowed⟩ := halts
          rw [unfollowed] at arrived
          cases arrived
          exact ⟨[here ++ [name]], .halt inside short there unfollowed⟩
        · have followed : rest ≠ [] ∨ last = true := by
            rwa [not_and_or, Bool.not_eq_false] at halts
          have goesOn : ¬ (rest.isEmpty && !last) = true := by
            rw [Bool.and_eq_true, List.isEmpty_iff, Bool.not_eq_true']
            exact halts
          rw [if_neg goesOn] at arrived
          cases links with
          | zero => cases arrived
          | succ left =>
            obtain ⟨passed, onward⟩ := fewer left _ _ rfl arrived
            exact ⟨_, .link inside short there followed onward⟩

theorem leads_of_followSteps
    (arrived : followSteps files.root last links here path = .ok destination) :
    ∃ passed, Leads files last links here path passed destination := by
  -- Outside on the links that are left, inside on the steps: a link may add steps.
  induction links generalizing here path with
  | zero =>
    induction path generalizing here with
    | nil =>
      rw [followSteps_nil] at arrived
      cases arrived
      exact ⟨[], .done⟩
    | cons step rest ih =>
      exact leads_of_followSteps_cons arrived (fun _ => ih) fun _ _ _ more => by cases more
  | succ links ihLinks =>
    induction path generalizing here with
    | nil =>
      rw [followSteps_nil] at arrived
      cases arrived
      exact ⟨[], .done⟩
    | cons step rest ih =>
      refine leads_of_followSteps_cons arrived (fun _ => ih) fun left there path more => ?_
      cases more
      exact ihLinks

/-- Following steps with success is the relation. -/
theorem followSteps_eq_ok :
    followSteps files.root last links here path = .ok destination ↔
      ∃ passed, Leads files last links here path passed destination :=
  ⟨leads_of_followSteps, fun ⟨_, leads⟩ => leads.followSteps_eq⟩

theorem Leads.unique {passed' : List Location} {destination' : Destination}
    (leads : Leads files last links here path passed destination)
    (other : Leads files last links here path passed' destination') :
    destination = destination' :=
  Except.ok.inj (leads.followSteps_eq.symm.trans other.followSteps_eq)

/-! ## Paths in two file systems -/

namespace SameShape

variable {location : Location}

theorem of_eq (same : before.entryAt location = after.entryAt location) :
    SameShape before after location := congrArg (Option.map Entry.shape) same

theorem symm (same : SameShape before after location) : SameShape after before location :=
  Eq.symm same

theorem folder (same : SameShape before after location)
    (inside : before.entryAt location = some .folder) :
    after.entryAt location = some .folder := by
  rw [SameShape, inside] at same
  rcases held : after.entryAt location with _ | (_ | _ | _ | _) <;> simp_all [Entry.shape]

theorem link (same : SameShape before after location) {target : Path}
    (there : before.entryAt location = some (.link target)) :
    after.entryAt location = some (.link target) := by
  rw [SameShape, there] at same
  rcases held : after.entryAt location with _ | (_ | _ | _ | _) <;> simp_all [Entry.shape]

theorem other (same : SameShape before after location) {entry : Entry}
    (there : before.entryAt location = some entry) (noLink : ∀ target, entry ≠ .link target) :
    ∃ entry', after.entryAt location = some entry' ∧ ∀ target, entry' ≠ .link target := by
  rw [SameShape, there] at same
  rcases held : after.entryAt location with _ | (_ | _ | target | _)
  · rw [held] at same
    cases same
  · exact ⟨_, rfl, nofun⟩
  · exact ⟨_, rfl, nofun⟩
  · rw [held] at same
    cases entry with
    | link other => exact absurd rfl (noLink other)
    | file | broken => cases same
    | folder => cases same
  · exact ⟨_, rfl, nofun⟩

theorem dropLast (first : before.entryAt location = some .folder)
    (second : after.entryAt location = some .folder) :
    SameShape before after location.dropLast := by
  rcases List.eq_nil_or_concat location with rfl | ⟨front, name, rfl⟩
  · exact of_eq (first.trans second.symm)
  · rw [List.concat_eq_append] at first second
    rw [List.concat_eq_append, List.dropLast_concat]
    exact of_eq ((entryAt_of_concat (by rw [first]; exact nofun)).trans
      (entryAt_of_concat (by rw [second]; exact nofun)).symm)

theorem linkStart (first : before.entryAt location = some .folder)
    (second : after.entryAt location = some .folder) (target : Path) :
    SameShape before after (FileSystem.linkStart location target) := by
  rw [FileSystem.linkStart]
  split
  · cases location with
    | nil => exact of_eq (first.trans second.symm)
    | cons name rest =>
      have top {files : FileSystem} (inside : files.entryAt (name :: rest) = some .folder) :
          files.entryAt [] = some .folder := by
        have held : files.entryAt ([] ++ name :: rest) ≠ none := by
          rw [List.nil_append, inside]
          exact nofun
        exact entryAt_of_append held (List.cons_ne_nil _ _)
      exact of_eq ((top first).trans (top second).symm)
  · exact of_eq (first.trans second.symm)

end SameShape

namespace Leads

/-- A path leads to the same place if all that it passes has the same shape. -/
theorem transfer (leads : Leads before last links here path passed destination)
    (start : SameShape before after here) (same : ∀ l ∈ passed, SameShape before after l)
    (vacancy : ∀ folder name trailing, destination = .free folder name trailing →
      after.entryAt (folder ++ [name]) = none) :
    Leads after last links here path passed destination := by
  induction leads with
  | done => exact .done
  | stay inside _ ih => exact .stay (start.folder inside) (ih start same vacancy)
  | up inside _ ih =>
    exact .up (start.folder inside) (ih (.dropLast inside (start.folder inside)) same vacancy)
  | enter inside short there noLink _ ih =>
    rw [List.forall_mem_cons] at same
    obtain ⟨entry', there', noLink'⟩ := same.1.other there noLink
    exact .enter (start.folder inside) short there' noLink' (ih same.1 same.2 vacancy)
  | vacant inside short nothing stays =>
    exact .vacant (start.folder inside) short (vacancy _ _ _ rfl) stays
  | halt inside short there unfollowed =>
    exact .halt (start.folder inside) short ((same _ List.mem_cons_self).link there) unfollowed
  | link inside short there followed _ ih =>
    rw [List.forall_mem_cons] at same
    exact .link (start.folder inside) short (same.1.link there) followed
      (ih (.linkStart inside (start.folder inside) _) same.2 vacancy)

/-- Past a name at which there is no link, a path goes on with the steps that remain. -/
theorem of_enter {name : String} {rest : List Step} {entry : Entry}
    (leads : Leads files last links here (.enter name :: rest) passed destination)
    (there : files.entryAt (here ++ [name]) = some entry)
    (noLink : ∀ target, entry ≠ .link target) :
    ∃ passed', Leads files last links (here ++ [name]) rest passed' destination := by
  cases leads with
  | enter _ _ _ _ onward => exact ⟨_, onward⟩
  | vacant _ _ nothing => exact absurd (there.symm.trans nothing) nofun
  | halt _ _ link => exact absurd (Option.some.inj (there.symm.trans link)) (noLink _)
  | link _ _ link => exact absurd (Option.some.inj (there.symm.trans link)) (noLink _)

/-- Past a link that is followed, a path goes on with its target, and then with the steps that
remain. -/
theorem of_link {name : String} {rest : List Step} {target : Path}
    (leads : Leads files last links here (.enter name :: rest) passed destination)
    (there : files.entryAt (here ++ [name]) = some (.link target))
    (followed : rest ≠ [] ∨ last = true) :
    ∃ left passed', links = left + 1 ∧
      Leads files last left (linkStart here target) (steps target ++ rest) passed' destination := by
  cases leads with
  | enter _ _ entry noLink => exact absurd (Option.some.inj (entry.symm.trans there)) (noLink _)
  | vacant _ _ nothing => exact absurd (there.symm.trans nothing) nofun
  | halt _ _ _ unfollowed => exact absurd followed (by simp [unfollowed])
  | link _ _ link _ onward =>
    cases there.symm.trans link
    exact ⟨_, _, rfl, onward⟩

/-- Every step is taken in a folder. -/
theorem start_folder (leads : Leads files last links here path passed destination)
    (moves : path ≠ []) :
    files.entryAt here = some .folder := by
  cases leads with
  | done => exact absurd rfl moves
  | stay inside => exact inside
  | up inside => exact inside
  | enter inside => exact inside
  | vacant inside => exact inside
  | halt inside => exact inside
  | link inside => exact inside

/-- Nothing is left to do at what is no folder. -/
theorem eq_nil_of_ne_folder (leads : Leads files last links here path passed destination)
    (noFolder : files.entryAt here ≠ some .folder) : path = [] := by
  by_contra moves
  exact noFolder (leads.start_folder moves)

/-- A path does not go on from what is no folder. -/
theorem of_leaf {place : Location} {entry : Entry}
    (leads : Leads files last links place path passed destination)
    (held : files.entryAt place = some entry) (noFolder : entry ≠ .folder) :
    destination = .found place := by
  obtain rfl := leads.eq_nil_of_ne_folder fun inside =>
    noFolder (Option.some.inj (held.symm.trans inside))
  cases leads
  rfl

/-- A file that a path passes is where it leads. -/
theorem of_file_passed {place : Location} {entry : Entry}
    (leads : Leads files last links here path passed destination) (member : place ∈ passed)
    (held : files.entryAt place = some entry) (noFolder : entry ≠ .folder)
    (noLink : ∀ target, entry ≠ .link target) : destination = .found place := by
  induction leads with
  | done => cases member
  | stay _ _ ih => exact ih member
  | up _ _ ih => exact ih member
  | enter _ _ _ _ onward ih =>
    rcases List.mem_cons.mp member with rfl | later
    · exact onward.of_leaf held noFolder
    · exact ih later
  | vacant => cases member
  | halt _ _ there _ =>
    rw [List.mem_singleton] at member
    subst member
    exact absurd (Option.some.inj (held.symm.trans there)) (noLink _)
  | link _ _ there _ _ ih =>
    rcases List.mem_cons.mp member with rfl | later
    · exact absurd (Option.some.inj (held.symm.trans there)) (noLink _)
    · exact ih later

/-- If of all that a path passes at most one link has become a file, the path leads to the same
place or to that file. -/
theorem of_replaced {passed' : List Location} {location place : Location}
    {destination' : Destination} {mode : Nat} {content : Bytes}
    (leads : Leads before last links here path passed (.found location))
    (start : SameShape before after here)
    (same : ∀ l ∈ passed, SameShape before after l ∨
      l = place ∧ after.entryAt place = some (.file mode content))
    (leads' : Leads after last links here path passed' destination') :
    destination' = .found location ∨ destination' = .found place := by
  -- Both walks pass the same entries until they come to the place, and at a file they end.
  generalize ending : Destination.found location = destination at leads
  induction leads generalizing passed' with
  | done =>
    cases leads'
    exact .inl rfl
  | stay inside _ ih =>
    cases leads' with
    | stay _ onward' => exact ih start same onward' ending
  | up inside _ ih =>
    cases leads' with
    | up _ onward' => exact ih (.dropLast inside (start.folder inside)) same onward' ending
  | vacant => cases ending
  | enter inside short there noLink _ ih =>
    rw [List.forall_mem_cons] at same
    rcases same.1 with sameEntry | ⟨rfl, file⟩
    · obtain ⟨entry', there', noLink'⟩ := sameEntry.other there noLink
      obtain ⟨_, onward'⟩ := leads'.of_enter there' noLink'
      exact ih sameEntry same.2 onward' ending
    · obtain ⟨_, onward'⟩ := leads'.of_enter file nofun
      exact .inr (onward'.of_leaf file nofun)
  | halt inside short there unfollowed =>
    cases leads' with
    | enter _ _ _ _ onward' =>
      cases onward'
      exact .inl rfl
    | vacant _ _ nothing =>
      rcases same _ List.mem_cons_self with sameEntry | ⟨placed, file⟩
      · exact absurd ((sameEntry.link there).symm.trans nothing) nofun
      · rw [← placed] at file
        exact absurd (file.symm.trans nothing) nofun
    | halt => exact .inl rfl
    | link _ _ _ followed => exact absurd followed (by simp [unfollowed])
  | link inside short there followed _ ih =>
    rw [List.forall_mem_cons] at same
    rcases same.1 with sameEntry | ⟨rfl, file⟩
    · obtain ⟨left, _, fewer, onward'⟩ := leads'.of_link (sameEntry.link there) followed
      cases fewer
      exact ih (.linkStart inside (start.folder inside) _) same.2 onward' ending
    · obtain ⟨_, onward'⟩ := leads'.of_enter file nofun
      exact .inr (onward'.of_leaf file nofun)

/-! ## Longer paths -/

/-- What follows the steps of a path starts where the path leads. -/
theorem of_append {more : List Step} {passed' : List Location} {location : Location}
    (front : Leads files true links here path passed (.found location))
    (whole : Leads files last links here (path ++ more) passed' destination)
    (goesOn : more ≠ []) :
    ∃ left rest, Leads files last left location more rest destination := by
  -- Each step of the first walk is also one of the second: both see the same entry.
  generalize ending : Destination.found location = middle at front
  induction front generalizing passed' with
  | done =>
    cases ending
    exact ⟨_, _, whole⟩
  | stay _ _ ih =>
    cases whole with
    | stay _ onward => exact ih onward ending
  | up _ _ ih =>
    cases whole with
    | up _ onward => exact ih onward ending
  | vacant => cases ending
  | halt _ _ _ unfollowed => cases unfollowed
  | enter _ _ there noLink _ ih =>
    rw [List.cons_append] at whole
    obtain ⟨_, onward⟩ := whole.of_enter there noLink
    exact ih onward ending
  | link _ _ there _ _ ih =>
    rw [List.cons_append] at whole
    obtain ⟨left, _, fewer, onward⟩ :=
      whole.of_link there (.inl fun none => goesOn (List.append_eq_nil_iff.mp none).2)
    cases fewer
    rw [← List.append_assoc] at onward
    exact ih onward ending

/-- A separator at the end follows a link but leads no further. -/
theorem of_append_stay {location : Location}
    (leads : Leads files last links here (path ++ [.stay]) passed (.found location)) :
    Leads files true links here path passed (.found location) := by
  -- The steps in front are those of the walk but for the last one, so they are split as it goes.
  generalize whole : path ++ [.stay] = steps at leads
  generalize ending : Destination.found location = destination at leads
  induction leads generalizing path with
  | done => simp at whole
  | stay inside onward ih =>
    cases path with
    | nil =>
      cases whole
      cases onward
      exact .done
    | cons step rest =>
      cases whole
      exact .stay inside (ih rfl ending)
  | up inside _ ih =>
    cases path with
    | nil => cases whole
    | cons step rest =>
      cases whole
      exact .up inside (ih rfl ending)
  | enter inside short there noLink _ ih =>
    cases path with
    | nil => cases whole
    | cons step rest =>
      cases whole
      exact .enter inside short there noLink (ih rfl ending)
  | vacant => cases ending
  | halt =>
    cases path with
    | nil => cases whole
    | cons step rest => simp at whole
  | link inside short there _ _ ih =>
    cases path with
    | nil => cases whole
    | cons step rest =>
      cases whole
      exact .link inside short there (.inr rfl) (ih (List.append_assoc _ _ _) ending)

/-- A name that is free is also free for a folder. -/
theorem free_append_stay {folder : Location} {name : String} {trailing : Bool}
    (leads : Leads files last links here path passed (.free folder name trailing)) :
    Leads files last links here (path ++ [.stay]) passed (.free folder name true) := by
  generalize ending : Destination.free folder name trailing = destination at leads
  induction leads with
  | done => cases ending
  | stay inside _ ih => exact .stay inside (ih ending)
  | up inside _ ih => exact .up inside (ih ending)
  | enter inside short there noLink _ ih => exact .enter inside short there noLink (ih ending)
  | @vacant links here name rest inside short nothing stays =>
    cases ending
    have whole : (!(rest ++ [Step.stay]).isEmpty) = true := by simp
    rw [← whole]
    exact .vacant inside short nothing (by simpa using stays)
  | halt => cases ending
  | link inside short there _ _ ih =>
    exact .link inside short there (.inl (by simp)) (List.append_assoc _ _ _ ▸ ih ending)

/-- A path that ends in a name, with a link at its end not followed, leads to that name. -/
theorem last_name {name : String}
    (leads : Leads files false links here (path ++ [.enter name]) passed destination) :
    ∃ folder, destination = .found (folder ++ [name]) ∧ folder ++ [name] ∈ passed ∨
      destination = .free folder name false := by
  -- Only the last step of the walk can enter the name at the end, as nothing comes after it.
  generalize whole : path ++ [.enter name] = steps at leads
  induction leads generalizing path with
  | done => simp at whole
  | stay _ _ ih =>
    cases path with
    | nil => cases whole
    | cons step rest =>
      cases whole
      exact ih rfl
  | up _ _ ih =>
    cases path with
    | nil => cases whole
    | cons step rest =>
      cases whole
      exact ih rfl
  | enter _ _ _ _ onward ih =>
    cases path with
    | nil =>
      cases whole
      cases onward
      exact ⟨_, .inl ⟨rfl, List.mem_cons_self⟩⟩
    | cons step rest =>
      cases whole
      obtain ⟨folder, found | free⟩ := ih rfl
      · exact ⟨folder, .inl ⟨found.1, List.mem_cons_of_mem _ found.2⟩⟩
      · exact ⟨folder, .inr free⟩
  | vacant _ _ _ stays =>
    cases path with
    | nil =>
      cases whole
      exact ⟨_, .inr rfl⟩
    | cons step rest =>
      cases whole
      simp at stays
  | halt =>
    cases path with
    | nil =>
      cases whole
      exact ⟨_, .inl ⟨rfl, List.mem_cons_self⟩⟩
    | cons step rest => simp at whole
  | link _ _ _ followed _ ih =>
    cases path with
    | nil =>
      cases whole
      simp at followed
    | cons step rest =>
      cases whole
      obtain ⟨folder, found | free⟩ := ih (List.append_assoc _ _ _)
      · exact ⟨folder, .inl ⟨found.1, List.mem_cons_of_mem _ found.2⟩⟩
      · exact ⟨folder, .inr free⟩

/-! ## The last link of a path -/

/-- If a path leads to no link, it does not matter whether links at its end are followed. -/
theorem of_unfollowed {location : Location}
    (leads : Leads files false links here path passed (.found location))
    (noLink : ∀ target, files.entryAt location ≠ some (.link target)) :
    Leads files last links here path passed (.found location) := by
  generalize ending : Destination.found location = destination at leads ⊢
  induction leads with
  | done => exact .done
  | stay inside _ ih => exact .stay inside (ih ending)
  | up inside _ ih => exact .up inside (ih ending)
  | enter inside short there other _ ih => exact .enter inside short there other (ih ending)
  | vacant => cases ending
  | halt inside short there _ =>
    cases ending
    exact absurd there (noLink _)
  | link inside short there followed _ ih =>
    exact .link inside short there (.inl (followed.resolve_right nofun)) (ih ending)

/-- A path that leads somewhere also does if a link at its end is not followed, namely to the same
place or to such a link. -/
theorem exists_unfollowed {location : Location}
    (leads : Leads files true links here path passed (.found location)) :
    ∃ passed' location', Leads files false links here path passed' (.found location') ∧
      (location' = location ∨
        location' ∈ passed ∧ ∃ target, files.entryAt location' = some (.link target)) := by
  generalize ending : Destination.found location = destination at leads
  induction leads with
  | done =>
    cases ending
    exact ⟨_, _, .done, .inl rfl⟩
  | stay inside _ ih =>
    obtain ⟨passed', location', onward, same⟩ := ih ending
    exact ⟨_, _, .stay inside onward, same⟩
  | up inside _ ih =>
    obtain ⟨passed', location', onward, same⟩ := ih ending
    exact ⟨_, _, .up inside onward, same⟩
  | enter inside short there noLink _ ih =>
    obtain ⟨passed', location', onward, same⟩ := ih ending
    exact ⟨_, _, .enter inside short there noLink onward,
      same.imp_right fun link => ⟨List.mem_cons_of_mem _ link.1, link.2⟩⟩
  | vacant => cases ending
  | halt _ _ _ unfollowed => cases unfollowed
  | @link links here name rest target passed destination inside short there _ _ ih =>
    -- At the end of the path the walk stops at the link, and before that it goes through it.
    by_cases ends : rest = []
    · subst ends
      exact ⟨_, _, .halt inside short there rfl, .inr ⟨List.mem_cons_self, target, there⟩⟩
    · obtain ⟨passed', location', onward, same⟩ := ih ending
      exact ⟨_, _, .link inside short there (.inl ends) onward,
        same.imp_right fun link => ⟨List.mem_cons_of_mem _ link.1, link.2⟩⟩

/-! ## Places that exist and places that are made -/

/-- All that a path passes exists. -/
theorem passed_exists (leads : Leads files last links here path passed destination) :
    ∀ l ∈ passed, files.entryAt l ≠ none := by
  induction leads with
  | done => simp
  | stay _ _ ih => exact ih
  | up _ _ ih => exact ih
  | enter _ _ there _ _ ih => exact List.forall_mem_cons.mpr ⟨by rw [there]; exact nofun, ih⟩
  | vacant => simp
  | halt _ _ there _ => simp [there]
  | link _ _ there _ _ ih => exact List.forall_mem_cons.mpr ⟨by rw [there]; exact nofun, ih⟩

/-- A free name is one that its folder does not have. -/
theorem free_spec {folder : Location} {name : String} {trailing : Bool}
    (leads : Leads files last links here path passed (.free folder name trailing)) :
    files.entryAt folder = some .folder ∧ files.entryAt (folder ++ [name]) = none := by
  generalize ending : Destination.free folder name trailing = destination at leads
  induction leads with
  | done => cases ending
  | stay _ _ ih => exact ih ending
  | up _ _ ih => exact ih ending
  | enter _ _ _ _ _ ih => exact ih ending
  | vacant inside _ nothing _ =>
    cases ending
    exact ⟨inside, nothing⟩
  | halt => cases ending
  | link _ _ _ _ _ ih => exact ih ending

/-- A path leads to the same place if all that existed is kept. -/
theorem of_kept {location : Location}
    (leads : Leads before last links here path passed (.found location))
    (kept : ∀ l, before.entryAt l ≠ none → SameShape before after l) :
    Leads after last links here path passed (.found location) := by
  by_cases moves : path = []
  · subst moves
    cases leads
    exact .done
  · have start := leads.start_folder moves
    exact leads.transfer (kept here (by rw [start]; exact nofun))
      (fun l member => kept l (leads.passed_exists l member)) nofun

theorem of_stays {rest : List Step} (inside : rest ≠ [] → files.entryAt here = some .folder)
    (stays : rest.all (· = .stay)) : Leads files last links here rest [] (.found here) := by
  induction rest with
  | nil => exact .done
  | cons step rest ih =>
    rw [List.all_cons, Bool.and_eq_true, decide_eq_true_eq] at stays
    obtain ⟨rfl, stays⟩ := stays
    exact .stay (inside (List.cons_ne_nil _ _)) (ih (fun _ => inside (List.cons_ne_nil _ _)) stays)

/-- Once something has been made under a free name, the path leads there. -/
theorem of_free {folder : Location} {name : String} {trailing last' : Bool} {entry : Entry}
    (leads : Leads before last links here path passed (.free folder name trailing))
    (kept : ∀ l, before.entryAt l ≠ none → SameShape before after l)
    (there : after.entryAt (folder ++ [name]) = some entry)
    (noLink : ∀ target, entry ≠ .link target) (whole : trailing = true → entry = .folder)
    (follows : last = true → last' = true) :
    Leads after last' links here path (passed ++ [folder ++ [name]])
      (.found (folder ++ [name])) := by
  generalize ending : Destination.free folder name trailing = destination at leads
  have folders {l : Location} (inside : before.entryAt l = some .folder) :
      after.entryAt l = some .folder :=
    (kept l (by rw [inside]; exact nofun)).folder inside
  induction leads with
  | done => cases ending
  | stay inside _ ih => exact .stay (folders inside) (ih ending)
  | up inside _ ih => exact .up (folders inside) (ih ending)
  | enter inside short held other _ ih =>
    obtain ⟨entry', held', other'⟩ := (kept _ (by rw [held]; exact nofun)).other held other
    exact .enter (folders inside) short held' other' (ih ending)
  | vacant inside short nothing stays =>
    cases ending
    -- Only separators are left, and they need a folder.
    refine .enter (folders inside) short there noLink (of_stays (fun more => ?_) stays)
    rw [there, whole (by rw [Bool.not_eq_true', List.isEmpty_eq_false_iff]; exact more)]
  | halt => cases ending
  | link inside short held followed _ ih =>
    exact .link (folders inside) short ((kept _ (by rw [held]; exact nofun)).link held)
      (followed.imp_right follows) (ih ending)

/-! ## Names that are not mentioned -/

/-- A path passes nothing under a name that neither its steps nor the links mention. -/
theorem avoids {name : String} (leads : Leads files last links here path passed destination)
    (unmentioned : .enter name ∉ path)
    (unlinked : ∀ l target, files.entryAt l = some (.link target) → .enter name ∉ steps target)
    (outside : name ∉ here) :
    (∀ l ∈ passed, name ∉ l) ∧ (∀ l, destination = .found l → name ∉ l) ∧
      ∀ folder other trailing, destination = .free folder other trailing →
        name ∉ folder ++ [other] := by
  have beside {here : Location} {other : String} {rest : List Step}
      (unmentioned : .enter name ∉ Step.enter other :: rest) (outside : name ∉ here) :
      name ∉ here ++ [other] := by
    rw [List.mem_append, List.mem_singleton]
    rintro (inside | rfl)
    · exact outside inside
    · exact unmentioned List.mem_cons_self
  induction leads with
  | done => exact ⟨by simp, fun l same => by cases same; exact outside, nofun⟩
  | stay _ _ ih => exact ih (fun later => unmentioned (List.mem_cons_of_mem _ later)) outside
  | up _ _ ih =>
    exact ih (fun later => unmentioned (List.mem_cons_of_mem _ later))
      (fun inside => outside (List.dropLast_subset _ inside))
  | enter _ _ _ _ _ ih =>
    have next := beside unmentioned outside
    obtain ⟨passes, found, free⟩ :=
      ih (fun later => unmentioned (List.mem_cons_of_mem _ later)) next
    exact ⟨List.forall_mem_cons.mpr ⟨next, passes⟩, found, free⟩
  | vacant =>
    refine ⟨by simp, nofun, fun folder other trailing same => ?_⟩
    cases same
    exact beside unmentioned outside
  | halt =>
    have next := beside unmentioned outside
    exact ⟨List.forall_mem_cons.mpr ⟨next, by simp⟩, fun l same => by cases same; exact next, nofun⟩
  | link _ _ there _ _ ih =>
    have next := beside unmentioned outside
    have onward := ih (fun member => (List.mem_append.mp member).elim (unlinked _ _ there)
      fun later => unmentioned (List.mem_cons_of_mem _ later)) (by
        rw [linkStart]
        split
        · exact List.not_mem_nil
        · exact outside)
    exact ⟨List.forall_mem_cons.mpr ⟨next, onward.1⟩, onward.2⟩

end Leads
end FileSystem
end ReleasePacker
