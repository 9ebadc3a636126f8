import ReleasePacker.Proofs.Release.Delivery

/-!
# What a run leaves behind

Besides what the commands and the tool change, a run changes nothing until it stages files, and of
staging nothing remains. What it may leave is new folders on the way to the output folder and the
archive. A run that fails leaves no archive, with one exception: where a symbolic link stood in the
archive's place and the archive's own path leads through that link, the link is gone before the
archive is read back, and reading fails.

## Main definitions

* `ReleaseRun.removesStaging` — the staging folder can still be removed after packing
* `ReleaseRun.Remains` — what a run may leave at a location

## Main results

* `ReleaseRun.execute_frame` — a run leaves nothing else
* `ReleaseRun.execute_linked` — a run that fails and leaves its archive
-/

namespace ReleasePacker

namespace ReleaseRun

variable {σ : Type} (run : ReleaseRun σ)

/-- Whether the staging folder of a run, if it gets as far as to have one, can be removed after
packing. -/
def removesStaging (world : World σ) : Bool :=
  match run.prepare.perform world with
  | (.error _, _) => true
  | (.ok plan, start) =>
    match run.staging plan start with
    | (.error _, _) => true
    | (.ok folder, staged) =>
      ((run.packing plan folder staged.files).2.removeTree folder.path).isOk

/-- What a run may leave at a location where there was something else before, by what it answers.
Paths are followed in the files as they are when the archive gets its name. -/
inductive Remains (plan : ReleasePlan) (before made : FileSystem) (location : Location) :
    Except ReleaseError ReleaseReport → Option Entry → Prop
  /-- A folder that was missing on the way to the output folder. -/
  | folder (result : Except IoError (List String × String)) (path : Path)
    (missing : before.entryAt location = none)
    (above : path ∈ FileSystem.ancestors run.config.outputDir)
    (leads : made.locate path = .ok location) :
    Remains plan before made location (plan.outcome (run.archivePath plan) result) (some .folder)
  /-- The archive. -/
  | archive (answer : List String × String) (content : Bytes)
    (noFolder : before.entryAt location ≠ some .folder)
    (addresses : made.Addresses (run.archivePath plan) location) :
    Remains plan before made location (plan.outcome (run.archivePath plan) (.ok answer))
      (some (.file temporaryMode content))
  /-- The archive in place of a link, through which it could not be read back. -/
  | unread (error : IoError) (link : Path) (content : Bytes)
    (there : before.entryAt location = some (.link link))
    (addresses : made.Addresses (run.archivePath plan) location) :
    Remains plan before made location (plan.outcome (run.archivePath plan) (.error error))
      (some (.file temporaryMode content))

variable {run}

/-- Packing from a staging folder that is removed afterwards leaves folders and the archive. -/
theorem remains_of_packing {plan : ReleasePlan} {start files : FileSystem} {folder : Path}
    {place : Location} {members : List Tar.Member}
    {ended : Except IoError (List String × String) × FileSystem}
    (staged : Staged start folder place members files)
    (ending : PackEnding run.platform files folder run.config.outputDir (run.archivePath plan)
      ended) :
    ∃ made, FoldersMade (FileSystem.ancestors run.config.outputDir) files made ∧
      (ended.2.erase place).workingDirectory = start.workingDirectory ∧
      ∀ location, (ended.2.erase place).entryAt location = start.entryAt location ∨
        run.Remains plan start made location (plan.outcome (run.archivePath plan) ended.1)
          ((ended.2.erase place).entryAt location) := by
  -- In the staging folder and below it nothing is left, as nothing was there at the start.
  have settle {made after : FileSystem} (result : Except IoError (List String × String))
      (directory : after.workingDirectory = files.workingDirectory)
      (beside : ∀ location, ¬ place <+: location →
        after.entryAt location = start.entryAt location ∨
          run.Remains plan start made location (plan.outcome (run.archivePath plan) result)
            (after.entryAt location)) :
      (after.erase place).workingDirectory = start.workingDirectory ∧
        ∀ location, (after.erase place).entryAt location = start.entryAt location ∨
          run.Remains plan start made location (plan.outcome (run.archivePath plan) result)
            ((after.erase place).entryAt location) := by
    refine ⟨by rw [FileSystem.workingDirectory_erase, directory, staged.workingDirectory],
      fun location => ?_⟩
    rw [FileSystem.entryAt_erase staged.proper]
    split
    next below => exact .inl (FileSystem.entryAt_eq_none_of_below staged.fresh below).symm
    next outside => exact beside location outside
  have folders {made : FileSystem} (result : Except IoError (List String × String))
      (folders : FoldersMade (FileSystem.ancestors run.config.outputDir) files made)
      {location : Location} (outside : ¬ place <+: location) :
      made.entryAt location = start.entryAt location ∨
        run.Remains plan start made location (plan.outcome (run.archivePath plan) result)
          (made.entryAt location) := by
    rcases folders.entryAt location with same | ⟨missing, there, path, above, leads⟩
    · exact .inl (same.trans (staged.outside location outside))
    · rw [staged.outside location outside] at missing
      rw [there]
      exact .inr (.folder result path missing above leads)
  cases ending with
  | unwritten error made making =>
    exact ⟨made, making, settle (.error error) making.workingDirectory
      fun _ outside => folders (.error error) making outside⟩
  | unreadable error made other link bytes after making addresses there replaced unread =>
    refine ⟨made, making, settle (.error error)
      (replaced.workingDirectory.trans making.workingDirectory) fun location outside => ?_⟩
    by_cases here : location = other
    · subst here
      have before : start.entryAt location = some (.link link) := by
        rw [← staged.outside location outside]
        rcases making.entryAt location with same | ⟨-, new, -⟩
        · rw [← same, there]
        · rw [there] at new
          cases new
      rw [replaced.placed]
      exact .inr (.unread error link bytes before addresses)
    · rw [replaced.elsewhere location here]
      exact folders (.error error) making outside
  | packed names made unfinished openFolder openName created bytes other after listed making opened
      archived addresses replaced found =>
    refine ⟨made, making, settle (.ok _)
      (replaced.workingDirectory.trans making.workingDirectory) fun location outside => ?_⟩
    by_cases here : location = other
    · subst here
      have before : start.entryAt location ≠ some .folder := by
        intro folder
        rw [← staged.outside location outside] at folder
        have there : files.entryAt location ≠ none := by
          rw [folder]
          exact nofun
        exact replaced.noFolder ((making.kept there).trans folder)
      rw [replaced.placed]
      exact .inr (.archive _ bytes before addresses)
    · rw [replaced.elsewhere location here]
      exact folders (.ok _) making outside

/-- No file that remains has a name of an unfinished archive. -/
theorem Remains.not_partial {plan : ReleasePlan} {before made : FileSystem} {front : Location}
    {name : String} {result : Except ReleaseError ReleaseReport} {mode : Nat} {content : Bytes}
    (remains : run.Remains plan before made (front ++ [name]) result (some (.file mode content))) :
    ¬ partialEnding.toList <:+ name.toList := by
  have named (addresses : made.Addresses (run.archivePath plan) (front ++ [name])) :
      ¬ partialEnding.toList <:+ name.toList := by
    obtain ⟨init, final, ends, finalName⟩ := exists_steps_archive run.config.outputDir plan.archive
    obtain ⟨folder, same⟩ := addresses.last_name ends
    obtain ⟨-, sameName⟩ := List.append_inj' same rfl
    cases sameName
    exact finalName
  cases remains with
  | archive answer _ _ addresses => exact named addresses
  | unread error link _ _ addresses => exact named addresses

/-- Where a run ends after its second half. -/
theorem perform_execute_of_ok {world start : World σ} {plan : ReleasePlan}
    (prepared : run.prepare.perform world = (.ok plan, start)) :
    run.execute.perform world = (run.deliver plan).perform start := by
  rw [execute_eq, Task.perform_bind_of_ok prepared]

theorem isOk_removeTree_of_removesStaging {world start staged : World σ} {plan : ReleasePlan}
    {folder : StagingFolder} (removes : run.removesStaging world = true)
    (prepared : run.prepare.perform world = (.ok plan, start))
    (filled : run.staging plan start = (.ok folder, staged)) :
    ((run.packing plan folder staged.files).2.removeTree folder.path).isOk = true := by
  rw [removesStaging, prepared] at removes
  dsimp only at removes
  rwa [filled] at removes

/-- A run has others change what they change, and from then on only shows lines and works on files.
When it is done, nothing is left of its staging folder and of an unfinished archive. Either it fails
and everything is as the others left it, or it has packed its files, with success or with a failure
to write the archive, and beside what remains of packing everything is as the others left it. -/
theorem execute_frame (run : ReleaseRun σ) (world : World σ)
    (removes : run.removesStaging world = true) :
    let prepared := run.prepare.perform world
    let finish := run.execute.perform world
    let before := prepared.2.files
    let after := finish.2.files
    Relation.ReflTransGen run.External world prepared.2 ∧
    finish.2.outside = prepared.2.outside ∧
    (∃ lines : List (String × Bool), finish.2.events =
      prepared.2.events ++ lines.map fun line => .wroteLine line.1 line.2) ∧
    after.workingDirectory = before.workingDirectory ∧
    (∀ front name mode content, after.entryAt (front ++ [name]) = some (.file mode content) →
      partialEnding.toList <:+ name.toList →
      before.entryAt (front ++ [name]) = some (.file mode content)) ∧
    ((∃ error, finish.1 = .error error ∧
        ∀ location, after.entryAt location = before.entryAt location) ∨
      ∃ plan folder staged place made,
        prepared.1 = .ok plan ∧ run.staging plan prepared.2 = (.ok folder, staged) ∧
        staged.files.locate folder.path = .ok place ∧
        before.entryAt place = none ∧ after.entryAt place = none ∧
        FoldersMade (FileSystem.ancestors run.config.outputDir) staged.files made ∧
        ∀ location, after.entryAt location = before.entryAt location ∨
          run.Remains plan before made location finish.1 (after.entryAt location)) := by
  intro prepared finish before after
  refine ⟨delegates_prepare world, ?_⟩
  rcases ending : run.prepare.perform world with ⟨error | plan, start⟩
  · have stopped : finish = (.error error, start) := by
      change run.execute.perform world = _
      rw [execute_eq, Task.perform_bind_of_error ending]
    have same : prepared = (.error error, start) := ending
    simp only [before, after, stopped, same]
    exact ⟨trivial, ⟨[], by simp⟩, trivial, fun _ _ _ _ held _ => held, .inl ⟨error, rfl, by simp⟩⟩
  · have whole : finish = (run.deliver plan).perform start := perform_execute_of_ok ending
    have same : prepared = (.ok plan, start) := ending
    have told : (run.deliver plan).OnlyTells := onlyTells_deliver plan
    obtain ⟨outside, lines, events⟩ := told start
    have delivered := run.deliver_spec (run.wellNamed_of_prepare ending) start
    simp only [before, after, whole, same]
    refine ⟨outside, ⟨lines, events⟩, ?_⟩
    generalize ((run.deliver plan).perform start).1 = result at delivered
    generalize ((run.deliver plan).perform start).2.files = files at delivered
    cases delivered with
    | unstaged error after untouched =>
      refine ⟨untouched.workingDirectory, fun front name mode content held _ => ?_,
        .inl ⟨error, rfl, untouched.entryAt⟩⟩
      rwa [← untouched.entryAt]
    | staged folder created place copies full ended after filled making fresh copied holds packed
        packing removal =>
      -- What is removed is the staging folder, so what is left is what packing has left beside it.
      have removed : ended.2.removeTree folder.path = .ok files := by
        have able := isOk_removeTree_of_removesStaging removes ending filled
        rw [packed] at able
        rcases removal with removed | ⟨-, error, failed⟩
        · exact removed
        · rw [failed] at able
          cases able
      obtain rfl := packing.eq_erase holds removed
      obtain ⟨made, making, directory, left⟩ := remains_of_packing holds packing
      refine ⟨directory, fun front name mode content held ending => ?_,
        .inr ⟨plan, folder, full, place, made, rfl, filled, holds.leads true, fresh.fresh, ?_,
          making, left⟩⟩
      -- Such a file was there before, or it remains of packing and has another name.
      · rcases left (front ++ [name]) with old | remains
        · rw [← old, held]
        · rw [held] at remains
          exact absurd ending remains.not_partial
      · rw [FileSystem.entryAt_erase holds.proper, if_pos List.prefix_rfl]

theorem execute_frame_obliged :
    let run := obliged ⟨"/out"⟩
    let world := builtProject []
    run.removesStaging world = true ∧ (run.execute.perform world).1.isOk = true ∧
      ∃ plan folder staged place,
        run.staging plan (run.prepare.perform world).2 = (.ok folder, staged) ∧
        staged.files.locate folder.path = .ok place ∧
        (run.execute.perform world).2.files.entryAt place = none := by
  intro run world
  have evaluated : run.removesStaging world = true ∧
      (run.execute.perform world).1.isOk = true := by decide +kernel
  obtain ⟨removes, succeeds⟩ := evaluated
  refine ⟨removes, succeeds, ?_⟩
  obtain ⟨-, -, -, -, -, ⟨error, failed, -⟩ | ⟨plan, folder, staged, place, made, -, filled,
    located, -, gone, -⟩⟩ := execute_frame run world removes
  · rw [failed] at succeeds
    cases succeeds
  · exact ⟨plan, folder, staged, place, filled, located, gone⟩

/-- A run fails and leaves an archive where a link stood: the path of the archive leads through
that link, so the archive cannot be read back once it has taken the place of the link. -/
theorem execute_linked :
    let run := obliged ⟨"/out/kak-lsp-1.0-a-b-c.tar.gz/.."⟩
    let world := builtProject [("kak-lsp-1.0-a-b-c.tar.gz", .link ⟨"sub"⟩), ("sub", .folder [])]
    let archive := ["out", "kak-lsp-1.0-a-b-c.tar.gz"]
    run.removesStaging world = true ∧ (run.execute.perform world).1.isOk = false ∧
      (run.prepare.perform world).2.files.entryAt archive = some (.link ⟨"sub"⟩) ∧
      ((run.execute.perform world).2.files.entryAt archive).map Entry.shape =
        some (.file 0 []) := by
  decide +kernel

end ReleaseRun
end ReleasePacker
