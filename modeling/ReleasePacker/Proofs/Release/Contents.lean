import ReleasePacker.Proofs.Archive
import ReleasePacker.Proofs.Digest
import ReleasePacker.Proofs.Release.Delivery
import ReleasePacker.Proofs.Staging.Copying

/-!
# What is in the archive of a run that succeeds

What is found at a path while the staging folder is there is what is found without it. So the files
that are copied are those that the plan names, as they were when staging began, and the archive can
be read back after the staging folder has gone.
-/

namespace ReleasePacker

/-- A copy has the mode and the content that its source had when staging began, if the source has
nothing to do with the staging folder. -/
theorem Copied.find {start : FileSystem} {path : Path} {front : Location} {name : String}
    {artifact : Artifact} {copy : Tar.Member}
    (copied : Copied start path (front ++ [name]) artifact copy)
    (unmentioned : .enter name ∉ FileSystem.steps artifact.source)
    (unlinked : ∀ location target, start.entryAt location = some (.link target) →
      .enter name ∉ FileSystem.steps target)
    (outside : name ∉ start.workingDirectory) :
    ∃ location, start.find artifact.source = .ok (location, .file copy.mode copy.content) := by
  obtain ⟨-, members, files, location, staged, found⟩ := copied
  have leaf : (Node.file copy.mode copy.content).entry ≠ .folder := nofun
  exact ⟨location, (staged.find_iff unmentioned unlinked outside leaf).mp found⟩

theorem Copied.contentOf {start : FileSystem} {path : Path} {front : Location} {name : String}
    {artifact : Artifact} {copy : Tar.Member}
    (copied : Copied start path (front ++ [name]) artifact copy)
    (unmentioned : .enter name ∉ FileSystem.steps artifact.source)
    (unlinked : ∀ location target, start.entryAt location = some (.link target) →
      .enter name ∉ FileSystem.steps target)
    (outside : name ∉ start.workingDirectory) :
    start.contentOf artifact.source = .ok copy.content := by
  obtain ⟨location, found⟩ := copied.find unmentioned unlinked outside
  rw [FileSystem.contentOf, found]

/-- The copies have the names and the contents of the files from which they were made. -/
theorem Copied.map_eq {start : FileSystem} {path : Path} {front : Location} {name : String}
    {artifacts : List Artifact} {copies : List Tar.Member}
    (copied : List.Forall₂ (Copied start path (front ++ [name])) artifacts copies)
    (unmentioned : ∀ artifact ∈ artifacts, .enter name ∉ FileSystem.steps artifact.source)
    (unlinked : ∀ location target, start.entryAt location = some (.link target) →
      .enter name ∉ FileSystem.steps target)
    (outside : name ∉ start.workingDirectory) :
    copies.map (fun copy => (copy.name, (.ok copy.content : Except IoError Bytes))) =
      artifacts.map fun artifact => (artifact.fileName, start.contentOf artifact.source) := by
  induction copied with
  | nil => rfl
  | @cons artifact copy artifacts copies first others ih =>
    rw [List.forall_mem_cons] at unmentioned
    have content := first.contentOf unmentioned.1 unlinked outside
    rw [List.map_cons, List.map_cons, content, first.1, ih unmentioned.2]

namespace ReleaseRun

variable {σ : Type} (run : ReleaseRun σ)

/-- Whether the name of the staging folder of a run, if it gets one, is mentioned in no path of the
run, in no symbolic link and not in the working directory. -/
def stagesApart (world : World σ) : Bool :=
  match run.prepare.perform world with
  | (.error _, _) => true
  | (.ok plan, start) =>
    match start.files.makeTemporary run.platform.uniqueText FileSystem.makeFolder
        (run.config.stagingParent.getD run.platform.temporaryFolder) stagingFront "" with
    | .error _ => true
    | .ok (folder, created) =>
      match created.locate folder with
      | .error _ => true
      | .ok place =>
        !start.files.mentions
          (run.archivePath plan :: plan.artifacts.entries.map Artifact.source)
          (place.getLast?.getD "")

variable {run}

theorem mentions_of_stagesApart {world start : World σ} {plan : ReleasePlan} {folder : Path}
    {created : FileSystem} {front : Location} {name : String}
    (apart : run.stagesApart world = true)
    (prepared : run.prepare.perform world = (.ok plan, start))
    (making : start.files.makeTemporary run.platform.uniqueText FileSystem.makeFolder
      (run.config.stagingParent.getD run.platform.temporaryFolder) stagingFront "" =
        .ok (folder, created))
    (located : created.locate folder = .ok (front ++ [name])) :
    start.files.mentions (run.archivePath plan :: plan.artifacts.entries.map Artifact.source) name =
      false := by
  rw [stagesApart, prepared] at apart
  dsimp only at apart
  rw [making] at apart
  dsimp only at apart
  rw [located] at apart
  dsimp only at apart
  rw [List.getLast?_concat, Bool.not_eq_true'] at apart
  exact apart

/-- The archive is still found when the staging folder has gone. -/
theorem find_archive {plan : ReleasePlan} {start files made after finish : FileSystem}
    {folder : Path} {front place : Location} {name : String} {members : List Tar.Member}
    {bytes : Bytes} {last : Bool}
    (staged : Staged start folder (front ++ [name]) members files)
    (folders : FoldersMade (FileSystem.ancestors run.config.outputDir) files made)
    (replaced : Replaced made place temporaryMode bytes after)
    (found : after.find (run.archivePath plan) last = .ok (place, .file temporaryMode bytes))
    (unmentioned : .enter name ∉ FileSystem.steps (run.archivePath plan))
    (unlinked : ∀ location target, start.entryAt location = some (.link target) →
      .enter name ∉ FileSystem.steps target)
    (outside : name ∉ start.workingDirectory)
    (removal : finish = after.erase (front ++ [name]) ∨ finish = after) :
    finish.find (run.archivePath plan) last = .ok (place, .file temporaryMode bytes) := by
  rcases removal with rfl | rfl
  swap
  · exact found
  -- Neither the folders that were made nor the archive are links.
  have links {location : Location} {target : Path}
      (held : after.entryAt location = some (.link target)) :
      start.entryAt location = some (.link target) := by
    have elsewhere : location ≠ place := by
      rintro rfl
      exact absurd (replaced.placed.symm.trans held) nofun
    rw [replaced.elsewhere location elsewhere] at held
    rcases folders.entryAt location with same | ⟨-, new, -⟩
    · exact staged.link_of_link (same.symm.trans held)
    · exact absurd (new.symm.trans held) nofun
  refine FileSystem.find_of_unmentioned found nofun unmentioned
    (fun l target held => unlinked l target (links held)) ?_ (FileSystem.workingDirectory_erase _)
    fun l other => ?_
  · rwa [replaced.workingDirectory, folders.workingDirectory, staged.workingDirectory]
  · rw [FileSystem.entryAt_erase staged.proper, if_neg]
    rintro ⟨back, rfl⟩
    exact other (by simp)

/-- A run that succeeds has packed just the files of its plan, each under its own name and with the
content that its source had when staging began, into an archive in the output folder that is named
for the release. The report names the archive, lists its members in their order and states its
digest. -/
theorem execute_contents (run : ReleaseRun σ) {world finish : World σ} {report : ReleaseReport}
    (apart : run.stagesApart world = true)
    (finished : run.execute.perform world = (.ok report, finish))
    (small : ∀ content, finish.files.contentOf report.archive = .ok content →
      content.length ≤ Tar.maxNumber) :
    ∃ plan start content, run.prepare.perform world = (.ok plan, start) ∧
      plan.archive = ⟨report.name, report.version, report.target⟩ ∧
      report.archive = run.config.outputDir /
        (report.name ++ "-" ++ report.version.text ++ "-" ++ report.target.text ++ ".tar.gz") ∧
      finish.files.contentOf report.archive = .ok content ∧
      listMembers finish.files report.archive = .ok report.members ∧
      report.members.Perm plan.artifacts.fileNames ∧ report.members.Nodup ∧
      ((archiveContents content).entries.map fun entry =>
          (entry.path.text, (.ok entry.data : Except IoError Bytes))).Perm
        (plan.artifacts.entries.map fun artifact =>
          (artifact.fileName, start.files.contentOf artifact.source)) ∧
      report.sha256 = Sha256.hex (Sha256.digest content) := by
  rw [execute_eq] at finished
  obtain ⟨plan, start, prepared, delivering⟩ := Task.perform_bind_eq_ok.mp finished
  have named := run.wellNamed_of_prepare prepared
  have delivered := run.deliver_spec named start
  rw [delivering] at delivered
  generalize ending : ((.ok report : Except ReleaseError ReleaseReport), finish.files) = outcome
    at delivered
  cases delivered with
  | unstaged error after same => cases ending
  | staged folder created place copies full ended after filled making fresh copied holds packs
      packing removal =>
    obtain ⟨answer, rfl⟩ := Prod.mk.inj ending
    have left : finish.files = ended.2.erase place ∨ finish.files = ended.2 :=
      removal.imp (fun removed => packing.eq_erase holds removed) And.left
    cases packing with
    | unwritten error made folders => cases answer
    | unreadable error made other link bytes after folders addresses there replaced unread =>
      cases answer
    | packed names made unfinished openFolder openName opening bytes archive after listed folders
        opened archived addresses replaced found =>
      cases answer
      -- The staging folder has a name, as it is not the root.
      obtain ⟨front, name, rfl⟩ : ∃ front name, place = front ++ [name] := by
        rcases List.eq_nil_or_concat place with nothing | ⟨front, name, same⟩
        · exact absurd nothing fresh.proper
        · exact ⟨front, name, by rw [same, List.concat_eq_append]⟩
      -- The name is mentioned nowhere, so each copy has the content from before there was a folder.
      obtain ⟨inPaths, inLinks, inDirectory⟩ := FileSystem.of_mentions_eq_false
        (mentions_of_stagesApart apart prepared making (fresh.leads true))
      rw [List.forall_mem_cons] at inPaths
      have contents := Copied.map_eq copied
        (fun artifact inside => inPaths.2 _ (List.mem_map.mpr ⟨artifact, inside, rfl⟩)) inLinks
        inDirectory
      have names : copies.map Tar.Member.name = plan.artifacts.fileNames := by
        have firsts := congrArg (List.map Prod.fst) contents
        rwa [List.map_map, List.map_map] at firsts
      have distinct : (copies.reverse.map Tar.Member.name).Nodup := by
        rw [List.map_reverse, List.nodup_reverse, names]
        exact named.nodup
      have plain : ∀ copy ∈ copies.reverse, Path.IsName copy.name := by
        intro copy inside
        have among : copy.name ∈ plan.artifacts.fileNames := by
          rw [← names]
          exact List.mem_map.mpr ⟨copy, List.mem_reverse.mp inside, rfl⟩
        obtain ⟨artifact, member, same⟩ := List.mem_map.mp among
        rw [← same]
        exact named.isName artifact member
      rw [holds.topLevelFiles_eq distinct, Except.ok.injEq] at listed
      subst listed
      have listing := run.platform.listingOrder_perm (copies.reverse.map Tar.Member.name)
      obtain ⟨packed, rfl, order, permuted, nonzero⟩ :=
        holds.archiveBytes_spec distinct plain folders opened listing archived
      -- The archive is read after the staging folder has gone or has stayed: it is the same one.
      have located : finish.files.find (run.archivePath plan) =
          .ok (archive, .file temporaryMode (Gzip.pack (Tar.write packed))) :=
        find_archive holds folders replaced found inPaths.1 inLinks inDirectory left
      have content : finish.files.contentOf (run.archivePath plan) =
          .ok (Gzip.pack (Tar.write packed)) := by
        rw [FileSystem.contentOf, located]
      have listing' : (run.platform.listingOrder (copies.reverse.map Tar.Member.name)).Perm
          plan.artifacts.fileNames := by
        rw [← names]
        exact listing.trans (copies.reverse_perm.map _)
      refine ⟨plan, start, _, prepared, rfl, rfl, content, ?_, listing',
        listing.nodup_iff.mpr distinct, ?_, Sha256.ofContent_eq _⟩
      · change listMembers finish.files (run.archivePath plan) =
          Except.ok (run.platform.listingOrder (copies.reverse.map Tar.Member.name))
        rw [← order]
        exact listMembers_of_pack content nonzero (small _ content)
      · rw [entries_archiveContents_pack nonzero (small _ content), ← contents]
        exact (permuted.trans copies.reverse_perm).map _

theorem execute_contents_obliged :
    let run := obliged ⟨"/out"⟩
    let world := builtProject []
    run.stagesApart world = true ∧
      ∃ report finish, run.execute.perform world = (.ok report, finish) ∧
        (∀ content, finish.files.contentOf report.archive = .ok content →
          content.length ≤ Tar.maxNumber) ∧
        listMembers finish.files report.archive = .ok report.members ∧
        report.members.Perm ["kak-lsp", "kak-lsp.toml", "README.asciidoc"] := by
  intro run world
  have apart : run.stagesApart world = true := by decide +kernel
  have named : (run.prepare.perform world).1.toOption.map (·.artifacts.fileNames) =
      some ["kak-lsp", "kak-lsp.toml", "README.asciidoc"] := by decide +kernel
  have short : (run.execute.perform world).1.toOption.any (fun report =>
      ((run.execute.perform world).2.files.contentOf report.archive).toOption.any fun content =>
        decide (content.length ≤ Tar.maxNumber)) = true := by decide +kernel
  refine ⟨apart, ?_⟩
  rcases finished : run.execute.perform world with ⟨error | report, finish⟩
  · rw [finished] at short
    cases short
  · have small : ∀ content, finish.files.contentOf report.archive = .ok content →
        content.length ≤ Tar.maxNumber := by
      intro content found
      rw [finished, Except.toOption, Option.any_some, found, Except.toOption,
        Option.any_some] at short
      exact of_decide_eq_true short
    obtain ⟨plan, start, content, prepared, -, -, -, listed, members, -⟩ :=
      execute_contents run apart finished small
    rw [prepared] at named
    have names : plan.artifacts.fileNames = ["kak-lsp", "kak-lsp.toml", "README.asciidoc"] :=
      Option.some.inj named
    rw [names] at members
    exact ⟨report, finish, rfl, small, listed, members⟩

end ReleaseRun
end ReleasePacker
