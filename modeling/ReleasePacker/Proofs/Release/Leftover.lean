import ReleasePacker.Proofs.Release.Answers
import ReleasePacker.Proofs.Release.Attribution

/-!
# Archives that were there before

A run that fails before it packs anything does nothing itself to the path of its archive: it makes
no archive there, and it removes none. So an archive that an earlier run has left at that path is
still there when the later run has failed.
-/

namespace ReleasePacker

namespace FileSystem.SameEntries

variable {before after : FileSystem} {path : Path} {last : Bool} {location : Location} {mode : Nat}
  {content : Bytes}

theorem symm (same : before.SameEntries after) : after.SameEntries before where
  workingDirectory := same.workingDirectory.symm
  entryAt location := (same.entryAt location).symm

theorem find_leaf (same : before.SameEntries after) {node : Node}
    (found : before.find path last = .ok (location, node)) (leaf : node.entry ≠ .folder) :
    after.find path last = .ok (location, node) := by
  obtain ⟨leads, there⟩ := find_eq_ok.mp found
  obtain ⟨accepted, passed, leads⟩ := follow_eq_ok.mp leads
  refine find_eq_ok.mpr ⟨follow_eq_ok.mpr ⟨accepted, passed, ?_⟩, ?_⟩
  · rw [same.workingDirectory]
    exact leads.transfer (.of_eq (same.entryAt _).symm)
      (fun l _ => .of_eq (same.entryAt l).symm) nofun
  · rw [get?_eq_leaf leaf] at there ⊢
    rw [same.entryAt, there]

/-- The same files are found in both. -/
theorem isFile_eq (same : before.SameEntries after) (path : Path) :
    after.isFile path = before.isFile path := by
  rw [Bool.eq_iff_iff, isFile_eq_true, isFile_eq_true]
  constructor
  · rintro ⟨location, node, opened, found, regular⟩
    exact ⟨location, node, opened, same.symm.find_leaf found (node.leaf_of_reading regular),
      regular⟩
  · rintro ⟨location, node, opened, found, regular⟩
    exact ⟨location, node, opened, same.find_leaf found (node.leaf_of_reading regular), regular⟩

end FileSystem.SameEntries

/-- A row of tasks is one row after another. -/
inductive Course.Splits {σ : Type} :
    {α β γ : Type} → Course σ α γ → Course σ α β → Course σ β γ → Prop
  | here {α γ : Type} {row : Course σ α γ} : Splits row .done row
  | later {α β γ δ : Type} {stage : Stage} {task : α → Task σ β} {rest : Course σ β δ}
    {front : Course σ β γ} {back : Course σ γ δ} (splits : Splits rest front back) :
    Splits (.next stage task rest) (.next stage task front) back

/-- A row stops where its front does, or where its back does after the front has come to its
end. -/
theorem Course.Splits.stops {σ α β γ : Type} {row : Course σ α γ} {front : Course σ α β}
    {back : Course σ β γ} (splits : row.Splits front back) {a : α} {world after : World σ}
    {stage : Stage} {error : ReleaseError} (stops : row.Stops a world stage error after) :
    front.Stops a world stage error after ∨
      ∃ b middle, (front.task a).perform world = (.ok b, middle) ∧
        back.Stops b middle stage error after := by
  induction splits generalizing world with
  | here => exact .inr ⟨a, world, rfl, stops⟩
  | later splits ih =>
    cases stops with
    | here failed => exact .inl (.here failed)
    | later succeeded stops =>
      rcases ih stops with inside | ⟨b, middle, ended, beyond⟩
      · exact .inl (.later succeeded inside)
      · refine .inr ⟨b, middle, ?_, beyond⟩
        rw [Course.task, Task.perform_bind_of_ok succeeded, ended]

namespace ReleaseRun

variable {σ : Type} (run : ReleaseRun σ)

/-- The course of a run is all that comes before staging, and then staging and packing. -/
theorem exists_splits_course : ∃ (preparing : Course σ Unit ReleasePlan)
    (delivering : Course σ ReleasePlan ReleaseReport),
    run.course.Splits preparing delivering ∧ preparing.task () = run.prepare ∧
      ∀ plan start stage error after, delivering.Stops plan start stage error after →
        stage = .packaging ∨ run.staging plan start = (.error error, after) := by
  -- Six stages come before staging; which tasks they have is read off the course.
  refine ⟨_, _, .later <| .later <| .later <| .later <| .later <| .later .here, ?_, ?_⟩
  · cases tests : run.config.skipTests <;>
      simp [Course.task, prepare, makePlan, build, buildAndTest, buildSettings, tests]
  · intro plan start stage error after stops
    cases stops with
    | here failed =>
      right
      rw [Task.perform_bind_of_ok (run.perform_progress ..)] at failed
      rcases staged : run.staging plan start with ⟨failure | folder, ended⟩
      · rw [Task.perform_bind_of_error staged] at failed
        cases failed
        rfl
      · rw [Task.perform_bind_of_ok staged] at failed
        cases failed
    | later _ stops =>
      cases stops with
      | here failed => exact .inl rfl
      | later _ stops => cases stops

variable {run}

/-- A run that stops before packing has changed nothing itself when it stops. -/
theorem sameEntries_of_stops {world after : World σ} {stage : Stage} {error : ReleaseError}
    (stops : run.course.Stops () world stage error after) (early : stage ≠ .packaging) :
    (run.prepare.perform world).2.files.SameEntries after.files := by
  obtain ⟨preparing, delivering, splits, prepares, delivers⟩ := run.exists_splits_course
  rcases splits.stops stops with before | ⟨plan, start, prepared, stops⟩
  · have failed := Course.perform_eq_error.mpr ⟨stage, before⟩
    rw [prepares] at failed
    rw [failed]
    exact ⟨rfl, fun _ => rfl⟩
  · rw [prepares] at prepared
    rcases delivers plan start stage error after stops with packs | failed
    · exact absurd packs early
    rw [prepared]
    have told := run.files_afterProgress
      ("Staging " ++ toString plan.artifacts.entries.length ++ " files...") start
    rcases stageAll_spec run.platform (run.wellNamed_of_prepare prepared) run.config.stagingParent
        (run.afterProgress _ start) with
      ⟨error', files, ending, same⟩ | ⟨folder, created, place, copies, files, ending, -⟩
    · rw [staging, ending, Prod.mk.injEq] at failed
      rw [told] at same
      rw [← failed.2]
      exact same
    · rw [staging, ending] at failed
      cases failed

/-- A run that stops before packing leaves the path of its archive as those have left it who have
taken steps for it: if there is a file afterwards, it was there then. And if none of them touches
that path, there is a file afterwards just if there was one before the run. -/
theorem leftover_of_stops (run : ReleaseRun σ) {world planned after : World σ} {plan : ReleasePlan}
    {stage : Stage} {error : ReleaseError}
    (made : (makePlan run.config run.host run.executor).perform world = (.ok plan, planned))
    (stops : run.course.Stops () world stage error after) (early : stage ≠ .packaging) :
    ∃ others, Relation.ReflTransGen run.External planned others ∧
      others.files.SameEntries after.files ∧
      after.files.isFile plan.archivePath = others.files.isFile plan.archivePath ∧
      ((∀ {before behind}, run.External before behind →
          behind.files.isFile plan.archivePath = before.files.isFile plan.archivePath) →
        after.files.isFile plan.archivePath = world.files.isFile plan.archivePath) := by
  have same := sameEntries_of_stops stops early
  refine ⟨(run.prepare.perform world).2, ?_, same, same.isFile_eq _, fun spared => ?_⟩
  · rw [prepare, Task.perform_bind_of_ok made]
    exact ((delegates_build plan).bind fun _ => .pure plan) planned
  · rw [same.isFile_eq]
    exact run.kept_prepare (fun step kept => (spared step).trans kept) rfl

/-- A run in which all goes well until the tests stops in the stage that its failure names. -/
theorem stops_testing {status : WaitStatus} {world after : World Unit} {error : ReleaseError}
    (failed : (testing (.ok status)).execute.perform world = (.error error, after)) :
    (testing (.ok status)).course.Stops () world error.stage error after := by
  have each := course_failsIn (testing (.ok status)) (show _ = (testInstaller _).provider from rfl)
    (onlySystemFailures_testExecutor nofun)
  rw [execute_eq_course] at failed
  obtain ⟨stage, stops⟩ := Course.perform_eq_error.mp failed
  obtain rfl := (stops.owns each).1
  exact stops

/-- Where there was no archive, none is left if the tests fail. -/
theorem leftover_of_stops_testing :
    let run := testing (.ok (.exited 3))
    ∃ plan planned error after,
      (makePlan run.config run.host run.executor).perform (builtProject []) = (.ok plan, planned) ∧
      run.course.Stops () (builtProject []) .test error after ∧ Stage.test ≠ .packaging ∧
      after.files.isFile plan.archivePath = false := by
  intro run
  have keeps : run.KeepsFiles := ⟨fun _ _ _ => rfl, fun _ _ _ => rfl, fun _ _ => rfl⟩
  have evaluated : ((makePlan run.config run.host run.executor).perform (builtProject [])).1.map
        (fun plan => (builtProject []).files.isFile plan.archivePath) = .ok false ∧
      (run.execute.perform (builtProject [])).1.mapError ReleaseError.stage = .error .test := by
    decide +kernel
  obtain ⟨missing, fails⟩ := evaluated
  rcases made : (makePlan run.config run.host run.executor).perform (builtProject []) with
    ⟨error | plan, planned⟩
  · rw [made] at missing
    cases missing
  rcases ended : run.execute.perform (builtProject []) with ⟨error | report, after⟩
  · rw [made] at missing
    rw [ended] at fails
    have stops := stops_testing ended
    rw [Except.error.inj fails] at stops
    obtain ⟨-, -, -, -, left⟩ := leftover_of_stops run made stops nofun
    refine ⟨plan, planned, error, after, rfl, stops, nofun, ?_⟩
    rw [left fun step => by rw [keeps.files_external step]]
    exact Except.ok.inj missing
  · rw [ended] at fails
    cases fails

/-- The built project and its archive, after a release in which all went well. -/
def releasedProject : World Unit :=
  ((testing (.ok (.exited 0))).execute.perform (builtProject [])).2

/-- A run that stops before packing may find the archive of an earlier run, and then that archive
is still there: it is not so that no such run leaves a file at the path of its archive. -/
theorem leftover_released :
    ¬ ∀ (run : ReleaseRun Unit) (world planned after : World Unit) (plan : ReleasePlan)
      (stage : Stage) (error : ReleaseError),
      (makePlan run.config run.host run.executor).perform world = (.ok plan, planned) →
      run.course.Stops () world stage error after →
      stage ∈ [.bootstrap, .build, .test, .staging] →
      after.files.isFile plan.archivePath = false := by
  intro removed
  let run := testing (.ok (.exited 3))
  have evaluated : ((makePlan run.config run.host run.executor).perform releasedProject).1.map
        (fun plan => (run.execute.perform releasedProject).2.files.isFile plan.archivePath) =
          .ok true ∧
      (run.execute.perform releasedProject).1.mapError ReleaseError.stage = .error .test := by
    decide +kernel
  obtain ⟨there, fails⟩ := evaluated
  rcases made : (makePlan run.config run.host run.executor).perform releasedProject with
    ⟨error | plan, planned⟩
  · rw [made] at there
    cases there
  rcases ended : run.execute.perform releasedProject with ⟨error | report, after⟩
  · rw [made, ended] at there
    rw [ended] at fails
    have stops := stops_testing ended
    rw [Except.error.inj fails] at stops
    have gone := removed run releasedProject planned after plan .test error made stops (by decide)
    exact absurd ((Except.ok.inj there).symm.trans gone) nofun
  · rw [ended] at fails
    cases fails

end ReleaseRun
end ReleasePacker
