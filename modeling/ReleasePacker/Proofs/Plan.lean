import ReleasePacker.Plan
import ReleasePacker.Proofs.Artifact
import ReleasePacker.Proofs.Task

/-!
# How a plan comes about

A plan needs a target first, then a version, then a set of files. What is settled in it is read
off the configuration.
-/

namespace ReleasePacker

/-- A plan names the archive for the configuration, says where it and the binary are, and has a set
of files with names. -/
theorem planFor_eq_ok {config : ReleaseConfig} {target : TargetTriple} {version : VersionLabel}
    {plan : ReleasePlan} (made : planFor config target version = .ok plan) :
    plan.archive = ⟨config.name, version, target⟩ ∧
      plan.archivePath = config.outputDir / plan.archive.fileName ∧
      plan.binaryPath = binaryPath config.buildDir target config.binaryName ∧
      plan.artifacts.WellNamed := by
  rw [planFor] at made
  rcases artifacts : ArtifactSet.ofManifest config.manifest config.projectRoot
    (binaryPath config.buildDir target config.binaryName) with error | set
  · rw [artifacts] at made
    cases made
  · rw [artifacts] at made
    cases made
    exact ⟨rfl, rfl, rfl, ArtifactSet.wellNamed_of_ofManifest artifacts⟩

section

variable {σ : Type} {config : ReleaseConfig} {host : HostSystem} {executor : Executor σ}

theorem perform_makePlan_of_unresolved {error : ReleaseError}
    (unresolved : resolveTarget config.target host = .error error) (world : World σ) :
    (makePlan config host executor).perform world = (.error error, world) := by
  rw [makePlan, Task.perform_bind, Task.perform_liftExcept, unresolved]

theorem perform_makePlan_of_resolved {target : TargetTriple}
    (resolved : resolveTarget config.target host = .ok target) (world : World σ) :
    (makePlan config host executor).perform world =
      (((config.version.resolve executor).perform world).1.bind
          fun version => planFor config target version,
        ((config.version.resolve executor).perform world).2) := by
  rw [makePlan, Task.perform_bind, Task.perform_liftExcept, resolved]
  dsimp only
  rw [Task.perform_bind]
  rcases (config.version.resolve executor).perform world with ⟨error | version, middle⟩
  · rfl
  · exact Task.perform_liftExcept _ _

/-- A plan that was made is that of a target and a version. -/
theorem exists_planFor_of_makePlan {world middle : World σ} {plan : ReleasePlan}
    (made : (makePlan config host executor).perform world = (.ok plan, middle)) :
    ∃ target version, resolveTarget config.target host = .ok target ∧
      planFor config target version = .ok plan := by
  cases resolved : resolveTarget config.target host with
  | error error =>
    rw [perform_makePlan_of_unresolved resolved] at made
    cases made
  | ok target =>
    rw [perform_makePlan_of_resolved resolved, Prod.mk.injEq] at made
    rcases version : ((config.version.resolve executor).perform world).1 with error | label
    · rw [version] at made
      cases made.1
    · rw [version] at made
      exact ⟨target, label, rfl, made.1⟩

/-- A plan is for the target that was resolved. -/
theorem target_of_makePlan {world middle : World σ} {plan : ReleasePlan}
    (made : (makePlan config host executor).perform world = (.ok plan, middle)) :
    resolveTarget config.target host = .ok plan.archive.target := by
  obtain ⟨target, version, resolved, planned⟩ := exists_planFor_of_makePlan made
  rw [(planFor_eq_ok planned).1, resolved]

/-- The files of a plan have names of their own. -/
theorem wellNamed_of_makePlan {world middle : World σ} {plan : ReleasePlan}
    (made : (makePlan config host executor).perform world = (.ok plan, middle)) :
    plan.artifacts.WellNamed := by
  obtain ⟨target, version, -, planned⟩ := exists_planFor_of_makePlan made
  exact (planFor_eq_ok planned).2.2.2

end

end ReleasePacker
