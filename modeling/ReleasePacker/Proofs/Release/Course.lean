import ReleasePacker.Proofs.Release.Stages

/-!
# The course of a run

A run goes through eight stages, and each works on what the one before it has come to. Here the run
is a row of tasks, one for each stage, so that the stage in which it stops can be told from what is
done, and not from what is said about it afterwards.
-/

namespace ReleasePacker

/-- Tasks in a row, each with its stage, and each working on what the one before it answers. -/
inductive Course (σ : Type) : Type → Type → Type 1
  | done {α : Type} : Course σ α α
  | next {α β γ : Type} (stage : Stage) (task : α → Task σ β) (rest : Course σ β γ) : Course σ α γ

namespace Course

variable {σ : Type}

/-- The tasks of a row, carried out one after another. -/
def task {α β : Type} : Course σ α β → α → Task σ β
  | done, a => return a
  | next _ task rest, a => task a >>= rest.task

/-- Each task of a row has a property, which may depend on its stage. -/
def Each (holds : {β : Type} → Stage → Task σ β → Prop) {α β : Type} : Course σ α β → Prop
  | done => True
  | next stage task rest => (∀ a, holds stage (task a)) ∧ rest.Each holds

/-- A row that is given something in a world stops in a stage, with a failure and in a world: the
tasks of the stages before succeed, and that of the stage fails. -/
inductive Stops : {α β : Type} → Course σ α β → α → World σ → Stage → ReleaseError → World σ → Prop
  | here {α β γ : Type} {stage : Stage} {task : α → Task σ β} {rest : Course σ β γ} {a : α}
    {world after : World σ} {error : ReleaseError}
    (failed : (task a).perform world = (.error error, after)) :
    Stops (next stage task rest) a world stage error after
  | later {α β γ : Type} {first stage : Stage} {task : α → Task σ β} {rest : Course σ β γ} {a : α}
    {b : β} {world middle after : World σ} {error : ReleaseError}
    (succeeded : (task a).perform world = (.ok b, middle))
    (stops : Stops rest b middle stage error after) :
    Stops (next first task rest) a world stage error after

variable {α β : Type} {course : Course σ α β} {a : α} {world after after' : World σ}
  {stage stage' : Stage} {error error' : ReleaseError}

/-- A row fails exactly if it stops in one of its stages. -/
theorem perform_eq_error : (course.task a).perform world = (.error error, after) ↔
    ∃ stage, course.Stops a world stage error after := by
  induction course generalizing world with
  | done =>
    refine ⟨nofun, fun ⟨stage, stops⟩ => ?_⟩
    cases stops
  | next first task rest ih =>
    rw [Course.task, Task.perform_bind]
    -- The first task decides whether the row stops there or goes on in its rest.
    rcases ending : (task a).perform world with ⟨failure | b, middle⟩
    · constructor
      · rintro ⟨⟩
        exact ⟨first, .here ending⟩
      · rintro ⟨stage, stops⟩
        cases stops with
        | here failed =>
          cases ending.symm.trans failed
          rfl
        | later succeeded => cases ending.symm.trans succeeded
    · refine ih.trans (exists_congr fun stage => ⟨.later ending, fun stops => ?_⟩)
      cases stops with
      | here failed => cases ending.symm.trans failed
      | later succeeded stops =>
        cases ending.symm.trans succeeded
        exact stops

/-- A row stops in one stage only. -/
theorem Stops.unique (stops : course.Stops a world stage error after)
    (other : course.Stops a world stage' error' after') :
    stage' = stage ∧ error' = error ∧ after' = after := by
  induction stops with
  | here failed =>
    cases other with
    | here failed' =>
      cases failed.symm.trans failed'
      exact ⟨rfl, rfl, rfl⟩
    | later succeeded => cases failed.symm.trans succeeded
  | later succeeded _ ih =>
    cases other with
    | here failed => cases succeeded.symm.trans failed
    | later succeeded' stops =>
      cases succeeded.symm.trans succeeded'
      exact ih stops

end Course

namespace ReleaseRun

variable {σ : Type} (run : ReleaseRun σ)

/-- The stages of a run. -/
def course : Course σ Unit ReleaseReport :=
  .next .target (fun _ => liftExcept (resolveTarget run.config.target run.host)) <|
  .next .version (fun target => do
    return (target, ← run.config.version.resolve run.executor)) <|
  .next .configuration (fun (target, version) =>
    liftExcept (planFor run.config target version)) <|
  .next .bootstrap (fun plan => do
    run.progress ("Releasing " ++ plan.archive.name ++ " " ++ plan.archive.version.text ++
      " for " ++ plan.archive.target.text)
    return (plan, ← Task.askForTool run.provider)) <|
  .next .build (fun (plan, program) => do
    run.progress ("Building with " ++ program ++ "...")
    ensureLockFile run.executor run.config.projectRoot plan.archive.target
    runPhase run.executor (run.buildSettings program) plan.archive.target .build
    return (plan, program)) <|
  .next .test (fun (plan, program) => do
    if !run.config.skipTests then
      runPhase run.executor (run.buildSettings program) plan.archive.target .test
    return plan) <|
  .next .staging (fun plan => do
    run.progress ("Staging " ++ toString plan.artifacts.entries.length ++ " files...")
    return (plan, ← stageAll run.platform plan.artifacts run.config.stagingParent)) <|
  .next .packaging (fun (plan, folder) => do
    let archive ← Task.andAlways
      (do
        run.progress ("Packaging " ++ plan.archive.fileName ++ "...")
        packArchive run.platform folder plan.archive run.config.outputDir)
      folder.discard
    let report := ReleaseReport.ofArchive plan archive
    run.progress report.summary
    return report) <|
  .done

/-- A run goes through its stages in order. -/
theorem execute_eq_course : run.execute = run.course.task () := by
  cases tests : run.config.skipTests <;>
    simp [execute, course, Course.task, makePlan, buildAndTest, pack, buildSettings, tests]

end ReleaseRun
end ReleasePacker
