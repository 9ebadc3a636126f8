import ReleasePacker.Proofs.Release.Contents
import ReleasePacker.Proofs.Release.ExitStatus
import ReleasePacker.Proofs.Release.Progress

/-!
# What stands on the two output streams

Scripts read the report from standard output, and people read the error stream. So nothing but the
report may ever stand on the one, and a run that failed must have said so at the end of the other.
Everything that a process does before it writes to standard output is one task here, which ends in a
report, and what is done with that report is another.
-/

namespace ReleasePacker

theorem ReleaseError.exitCode_ne_zero (error : ReleaseError) : error.exitCode ≠ 0 := by
  unfold exitCode
  split
  · split
    · decide
    · assumption
  · split
    · decide
    · assumption
  · decide

/-- A run that succeeds leaves the archive that its report is about, unless something that has to do
with the archive leads through the staging folder. -/
theorem ReleaseRun.exists_archive {σ : Type} {run : ReleaseRun σ} {world finish : World σ}
    {report : ReleaseReport} (apart : run.stagesApart world = true)
    (finished : run.execute.perform world = (.ok report, finish)) :
    ∃ content, finish.files.contentOf report.archive = .ok content ∧
      report.sha256 = Sha256.hex (Sha256.digest content) := by
  rw [execute_eq] at finished
  obtain ⟨plan, start, prepared, delivering⟩ := Task.perform_bind_eq_ok.mp finished
  have delivered := run.deliver_spec (run.wellNamed_of_prepare prepared) start
  rw [delivering] at delivered
  generalize ending : ((.ok report : Except ReleaseError ReleaseReport), finish.files) = outcome
    at delivered
  cases delivered with
  | unstaged error after same => cases ending
  | staged folder created place copies full ended after filled making fresh copied holds packs
      packing removal =>
    obtain ⟨answer, rfl⟩ := Prod.mk.inj ending
    have left : finish.files = ended.2.erase place ∨ finish.files = ended.2 :=
      removal.imp (fun removed => packing.eq_erase holds removed) And.left
    cases packing with
    | unwritten | unreadable => cases answer
    | packed names made unfinished openFolder openName opening bytes archive after listed folders
        opened archived addresses replaced found =>
      cases answer
      -- The staging folder has a name, as it is not the root, and the name is mentioned nowhere.
      obtain ⟨front, name, rfl⟩ : ∃ front name, place = front ++ [name] := by
        rcases List.eq_nil_or_concat place with nothing | ⟨front, name, same⟩
        · exact absurd nothing fresh.proper
        · exact ⟨front, name, by rw [same, List.concat_eq_append]⟩
      obtain ⟨inPaths, inLinks, inDirectory⟩ := FileSystem.of_mentions_eq_false
        (mentions_of_stagesApart apart prepared making (fresh.leads true))
      rw [List.forall_mem_cons] at inPaths
      have located : finish.files.find (run.archivePath plan) =
          .ok (archive, .file temporaryMode bytes) :=
        find_archive holds folders replaced found inPaths.1 inLinks inDirectory left
      refine ⟨bytes, ?_, Sha256.ofContent_eq bytes⟩
      change finish.files.contentOf (run.archivePath plan) = .ok bytes
      rw [FileSystem.contentOf, located]

/-- A run has failed: nothing stands on standard output, the files are as they were then, and what
stands last on the error stream, if that takes it, is the line about the failure. -/
structure Outcome.FailsWith {σ : Type} (outcome : Outcome σ) (platform : Platform)
    (error : ReleaseError) (earlier : World σ) : Prop where
  stdout : outcome.stdout = ""
  exitCode : outcome.exitCode = error.exitCode
  files : outcome.world.files = earlier.files
  deeds : outcome.world.deeds = earlier.deeds
  errorStream : outcome.world.errorStream = earlier.errorStream ++
    if platform.acceptsLine earlier.linesTried then
      Utf8.encode ("error during " ++ error.stage.name ++ ": " ++ error.message ++ "\n")
    else []

namespace Program

variable {σ : Type} (program : Program σ) (surroundings : Except ReleaseError ProcessContext)
  (options : Options) (world : World σ)

/-! ## What a process does -/

/-- The configuration of a process in its surroundings. -/
def settle : Task σ ReleaseConfig := do
  let context ← liftExcept surroundings
  { program with context }.configure options

/-- How a report comes about: the release is configured and carried out. -/
def pipeline : Task σ ReleaseReport := do
  let config ← program.settle surroundings options
  (program.releaseRun options config).execute

/-- How the plan that is only shown comes about. -/
def planning : Task σ ReleasePlan := do
  let config ← program.settle surroundings options
  let run := program.releaseRun options config
  makePlan config run.host run.executor

/-- What is done with a report. -/
def handOver (report : ReleaseReport) : Task σ String :=
  if !options.json then return ""
  else
    match program.stdoutFault with
    | some fault => throw (.reportWrite fault)
    | none => return report.json ++ "\n"

theorem work_of_release (released : options.dryRun = false) :
    program.work surroundings options =
      program.pipeline surroundings options >>= program.handOver options := by
  rw [work, pipeline, settle, bind_assoc, bind_assoc]
  refine bind_congr fun context => ?_
  rw [release]
  refine bind_congr fun config => ?_
  dsimp only
  rw [if_neg (ne_true_of_eq_false released)]
  rfl

theorem work_of_dryRun (dry : options.dryRun = true) :
    program.work surroundings options = (do
      let plan ← program.planning surroundings options
      Task.writeLine program.platform plan.text
      return "") := by
  rw [work, planning, settle, bind_assoc, bind_assoc]
  refine bind_congr fun context => ?_
  rw [release]
  refine bind_congr fun config => ?_
  dsimp only
  rw [if_pos dry]
  rfl

theorem perform_settle :
    (program.settle surroundings options).perform world =
      (surroundings.bind fun context => options.resolve context world.files, world) := by
  rw [settle, Task.perform_bind, Task.perform_liftExcept]
  cases surroundings with
  | error error => rfl
  | ok context => exact perform_configure _ options world

/-! ## How a run ends -/

variable {program surroundings options world}

theorem start_of_read {words : List String} (read : readCommandLine words = .ok options) :
    program.start surroundings words world =
      program.conclude (program.work surroundings options) world := by
  rw [start, read]

theorem conclude_of_ok {work : Task σ String} {stdout : String} {later : World σ}
    (answered : work.perform world = (.ok stdout, later)) :
    program.conclude work world = { stdout, exitCode := 0, world := later } := by
  rw [conclude, answered]

theorem conclude_of_error {work : Task σ String} {error : ReleaseError} {earlier : World σ}
    (failed : work.perform world = (.error error, earlier)) :
    (program.conclude work world).FailsWith program.platform error earlier := by
  rw [conclude, failed]
  dsimp only
  rw [Task.perform_writeLine]
  refine ⟨rfl, rfl, rfl, World.deeds_record_line .., ?_⟩
  rw [World.errorStream, World.errorStream, World.record, List.flatMap_append]
  cases program.platform.acceptsLine earlier.linesTried <;> simp [Event.shown, ReleaseError.report]

theorem isOk_iff_exitCode_conclude (work : Task σ String) :
    (program.conclude work world).exitCode = 0 ↔ (work.perform world).1.isOk = true := by
  rw [exitCode_conclude]
  cases (work.perform world).1 with
  | ok stdout => exact ⟨fun _ => rfl, fun _ => rfl⟩
  | error error => exact ⟨fun zero => absurd zero error.exitCode_ne_zero, nofun⟩

/-! ## Standard output -/

variable (program options) in
/-- What stands on standard output in the end, by what the pipeline comes to. -/
def output : Except ReleaseError ReleaseReport → String
  | .ok report =>
    if options.json ∧ ¬ options.dryRun ∧ program.stdoutFault.isNone then report.json ++ "\n" else ""
  | .error _ => ""

theorem stdout_conclude_work :
    (program.conclude (program.work surroundings options) world).stdout =
      program.output options ((program.pipeline surroundings options).perform world).1 := by
  cases dry : options.dryRun with
  | true =>
    have nothing (answer : Except ReleaseError ReleaseReport) :
        program.output options answer = "" := by
      cases answer <;> simp [output, dry]
    rw [nothing, work_of_dryRun _ _ _ dry]
    rcases ended : (program.planning surroundings options).perform world with
      ⟨error | plan, later⟩
    · exact (conclude_of_error (Task.perform_bind_of_error ended _)).stdout
    · rw [conclude_of_ok (Task.perform_bind_of_ok ended _)]
  | false =>
    rw [work_of_release _ _ _ dry]
    rcases ended : (program.pipeline surroundings options).perform world with
      ⟨error | report, finish⟩
    · exact (conclude_of_error (Task.perform_bind_of_error ended _)).stdout
    -- Only what is done with the report can still stand on standard output.
    · have next := Task.perform_bind_of_ok ended (program.handOver options)
      rw [handOver] at next
      cases json : options.json with
      | false =>
        rw [json] at next
        rw [conclude_of_ok next]
        simp [output, json]
      | true =>
        cases taken : program.stdoutFault with
        | some fault =>
          rw [json, taken] at next
          rw [(conclude_of_error next).stdout]
          simp [output, taken]
        | none =>
          rw [json, taken] at next
          rw [conclude_of_ok next]
          simp [output, json, dry, taken]

/-- If the report cannot be written, the run fails, and leaves what the pipeline has left. -/
theorem conclude_work_of_fault {report : ReleaseReport} {finish : World σ} {fault : IoError}
    (released : options.dryRun = false) (json : options.json = true)
    (refused : program.stdoutFault = some fault)
    (finished : (program.pipeline surroundings options).perform world = (.ok report, finish)) :
    (program.conclude (program.work surroundings options) world).FailsWith program.platform
      (.reportWrite fault) finish := by
  rw [work_of_release _ _ _ released]
  refine conclude_of_error ?_
  rw [Task.perform_bind_of_ok finished, handOver, json, refused]
  rfl

/-- The archive of a pipeline that succeeds. -/
theorem exists_archive_of_pipeline {report : ReleaseReport} {finish : World σ}
    (finished : (program.pipeline surroundings options).perform world = (.ok report, finish))
    (apart : ∀ context config, surroundings = .ok context →
      options.resolve context world.files = .ok config →
      (program.releaseRun options config).stagesApart world = true) :
    ∃ content, finish.files.contentOf report.archive = .ok content ∧
      report.sha256 = Sha256.hex (Sha256.digest content) := by
  obtain ⟨config, middle, settled, executed⟩ := Task.perform_bind_eq_ok.mp finished
  rw [perform_settle, Prod.mk.injEq] at settled
  obtain ⟨resolved, rfl⟩ := settled
  cases surroundings with
  | error error => cases resolved
  | ok context => exact ReleaseRun.exists_archive (apart context config rfl resolved) executed

/-! ## A run that only shows its plan -/

theorem makePlan_asks {config : ReleaseConfig} {host : HostSystem} {executor : Executor σ} :
    ((makePlan config host executor).perform world).2 = world ∨
      ((makePlan config host executor).perform world).2 =
        Task.afterCommand executor describeCommand world := by
  cases resolved : resolveTarget config.target host with
  | error error =>
    rw [perform_makePlan_of_unresolved resolved]
    exact .inl rfl
  | ok target =>
    rw [perform_makePlan_of_resolved resolved]
    cases config.version with
    | given label => exact .inl rfl
    | describe =>
      right
      change ((describeVersion executor).perform world).2 = _
      rw [describeVersion, Task.perform_bind_of_ok (Task.perform_runCommand ..),
        Task.perform_liftExcept]

variable (program) in
/-- Nothing was done between two worlds, or the repository was asked to describe itself, in a folder
and for so many seconds at most; and what this left of the files was not changed. -/
def OnlyDescribes (before after : World σ) : Prop :=
  (after.deeds = before.deeds ∧ after.files = before.files) ∨
    ∃ folder timeout,
      let command : Command := ⟨"git", ["describe", "--tags"]⟩
      let reply := (program.executor folder timeout).run command before.outside before.files
      after.deeds = before.deeds ++ [.ran command reply.result] ∧ after.files = reply.files

/-- What is told afterwards makes no difference. -/
theorem OnlyDescribes.told {before after later : World σ}
    (only : program.OnlyDescribes before after) (deeds : later.deeds = after.deeds)
    (files : later.files = after.files) : program.OnlyDescribes before later := by
  rwa [OnlyDescribes, deeds, files]

theorem OnlyDescribes.failed {before earlier : World σ} {outcome : Outcome σ} {error : ReleaseError}
    (only : program.OnlyDescribes before earlier)
    (failed : outcome.FailsWith program.platform error earlier) :
    program.OnlyDescribes before outcome.world :=
  only.told failed.deeds failed.files

variable (program surroundings options world) in
theorem onlyDescribes_planning :
    program.OnlyDescribes world ((program.planning surroundings options).perform world).2 := by
  have settled := program.perform_settle surroundings options world
  rw [planning]
  generalize surroundings.bind (fun context => options.resolve context world.files) = answer
    at settled
  cases answer with
  | error error =>
    rw [Task.perform_bind_of_error settled]
    exact .inl ⟨rfl, rfl⟩
  | ok config =>
    rw [Task.perform_bind_of_ok settled]
    rcases makePlan_asks with same | asked
    · rw [same]
      exact .inl ⟨rfl, rfl⟩
    · rw [asked]
      refine .inr ⟨config.projectRoot, config.timeout, ?_, rfl⟩
      rw [Task.afterCommand, World.deeds, List.filter_append]
      rfl

variable (program surroundings world) in
/-- Whether there is a plan to show or not, no more than that is done. -/
theorem onlyDescribes_conclude_work (dry : options.dryRun = true) :
    program.OnlyDescribes world
      (program.conclude (program.work surroundings options) world).world := by
  have planned := program.onlyDescribes_planning surroundings options world
  rw [work_of_dryRun _ _ _ dry]
  rcases ended : (program.planning surroundings options).perform world with ⟨error | plan, later⟩
  · rw [ended] at planned
    exact planned.failed (conclude_of_error (Task.perform_bind_of_error ended _))
  · rw [ended] at planned
    rw [conclude_of_ok (Task.perform_bind_of_ok ended _)]
    exact planned.told (World.deeds_record_line ..) rfl

/-! ## A process as a whole -/

variable (program surroundings world) in
/-- A process whose command line can be read writes the report and a newline to standard output if
that is asked for and is no dry run, once the pipeline has succeeded and if the stream takes it, and
nothing else. It ends with zero exactly if what it does succeeds; any failure, of the pipeline or
later, is told in the last line of the error stream, quiet or not. A dry run does no more than to
have the repository describe itself. If the report cannot be written, for whatever reason, that is
the failure, and the files stay as the pipeline has left them, with the finished archive in its
place. -/
theorem start_streams {words : List String} (read : readCommandLine words = .ok options) :
    let outcome := program.start surroundings words world
    let work := (program.work surroundings options).perform world
    let pipeline := (program.pipeline surroundings options).perform world
    outcome.stdout = program.output options pipeline.1 ∧
      (outcome.exitCode = 0 ↔ work.1.isOk = true) ∧
      (∀ error earlier, work = (.error error, earlier) →
        outcome.FailsWith program.platform error earlier) ∧
      (∀ error earlier, options.dryRun = false → pipeline = (.error error, earlier) →
        work = (.error error, earlier)) ∧
      (options.dryRun = true → program.OnlyDescribes world outcome.world ∧
        ((∀ folder timeout, ((program.executor folder timeout).run describeCommand world.outside
            world.files).files = world.files) → outcome.world.files = world.files)) ∧
      ∀ report finish fault, options.dryRun = false → options.json = true →
        program.stdoutFault = some fault → pipeline = (.ok report, finish) →
        outcome.FailsWith program.platform (.reportWrite fault) finish ∧
          outcome.exitCode = 1 ∧
          ((∀ context config, surroundings = .ok context →
              options.resolve context world.files = .ok config →
              (program.releaseRun options config).stagesApart world = true) →
            ∃ content, outcome.world.files.contentOf report.archive = .ok content ∧
              report.sha256 = Sha256.hex (Sha256.digest content)) := by
  intro outcome work pipeline
  have concluded : outcome = program.conclude (program.work surroundings options) world :=
    start_of_read read
  rw [concluded]
  refine ⟨stdout_conclude_work, isOk_iff_exitCode_conclude _, fun error earlier failed => ?_,
    fun error earlier released failed => ?_, fun dry => ?_,
    fun report finish fault released json refused finished => ?_⟩
  · exact conclude_of_error failed
  · dsimp only [work]
    rw [work_of_release _ _ _ released]
    exact Task.perform_bind_of_error failed _
  · have only := program.onlyDescribes_conclude_work surroundings world dry
    refine ⟨only, fun harmless => ?_⟩
    rcases only with ⟨-, same⟩ | ⟨folder, timeout, -, same⟩
    · exact same
    · exact same.trans (harmless folder timeout)
  · have fails := conclude_work_of_fault released json refused finished
    refine ⟨fails, fails.exitCode, fun apart => ?_⟩
    rw [fails.files]
    exact exists_archive_of_pipeline finished apart

/-- The built project with its licenses. -/
def licensedProject : World Unit :=
  let files := (ReleaseRun.builtProject []).files
  let root := ["COPYING", "MIT", "UNLICENSE"].foldl
    (fun root name => root.graft ["p", name] (.file 0o644 [])) files.root
  { files := { files with root }, outside := () }

/-- The report of a release that succeeds stands on standard output; if that is a closed pipe, this
is the failure. -/
theorem start_streams_licensed :
    let program := ReleaseRun.testProgram (.ok (.exited 0))
    let closed := { program with stdoutFault := some (.system 32) }
    let surroundings := Except.ok program.context
    let words := ["a-b-c", "--tag", "1.0", "--json", "--output-dir", "/out"]
    ∃ options report finish, readCommandLine words = .ok options ∧
      (program.pipeline surroundings options).perform licensedProject = (.ok report, finish) ∧
      (program.start surroundings words licensedProject).stdout = report.json ++ "\n" ∧
      (closed.start surroundings words licensedProject).FailsWith closed.platform
        (.reportWrite (.system 32)) finish := by
  intro program closed surroundings words
  let options : Options :=
    { target := some "a-b-c", tag := some "1.0", json := true, outputDir := some ⟨"/out"⟩ }
  have read : readCommandLine words = .ok options := by decide +kernel
  have succeeds :
      ((program.pipeline surroundings options).perform licensedProject).1.isOk = true := by
    decide +kernel
  obtain ⟨shown, -⟩ := program.start_streams surroundings licensedProject read
  obtain ⟨-, -, -, -, -, unwritten⟩ := closed.start_streams surroundings licensedProject read
  rcases finished : (program.pipeline surroundings options).perform licensedProject with
    ⟨error | report, finish⟩
  · rw [finished] at succeeds
    cases succeeds
  · rw [finished] at shown
    exact ⟨options, report, finish, read, finished, shown,
      (unwritten report finish _ rfl rfl rfl finished).1⟩

end Program

end ReleasePacker
