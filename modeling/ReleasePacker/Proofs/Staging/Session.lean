import ReleasePacker.Proofs.FileSystem.Copies
import ReleasePacker.Proofs.Staging

/-!
# Staging one file after another

A staging folder is filled by any number of calls, of which some fail, and other files may change in
between. What it holds can be told from the calls: under each name, what the last call for this name
left that left anything. A call that succeeds leaves a whole copy. One that fails mostly leaves
nothing, but where copying breaks off half way it leaves a beginning of its source, and the list of
names does not mention it. One call keeps this, and by induction every session does.
-/

namespace ReleasePacker

/-- A call of a session: what was to be staged on which disk, and the files before and after it. -/
structure StagingCall where
  artifact : Artifact
  shortage : Option Shortage
  before : FileSystem
  /-- How it failed, if it did. -/
  failure : Option ReleaseError
  after : FileSystem

namespace StagingCall

def succeeded (call : StagingCall) : Bool := call.failure.isNone

/-- The name under which the file is staged. -/
def name (call : StagingCall) : String := call.artifact.fileName

/-- The names of the calls that succeeded, in order. -/
def namesOf (calls : List StagingCall) : List String :=
  (calls.filter succeeded).map name

/-- The call succeeded, or it failed and has changed something nevertheless. -/
def Left (call : StagingCall) : Prop := call.succeeded = true ∨ call.after ≠ call.before

/-- Of the calls for a name that left something it is the last one. -/
def LastFor (calls : List StagingCall) (name : String) (call : StagingCall) : Prop :=
  ∃ earlier later, calls = earlier ++ call :: later ∧ call.name = name ∧ call.Left ∧
    ∀ other ∈ later, other.name = name → ¬ other.Left

/-- What a call leaves under its name, as a file with a mode and a content. -/
inductive Leaves (call : StagingCall) : Nat → Bytes → Prop
  /-- A whole copy. -/
  | whole {location : Location} {mode : Nat} {content : Bytes} (succeeded : call.failure = none)
    (found : call.before.find call.artifact.source = .ok (location, .file mode content)) :
    Leaves call mode content
  /-- As much as can be read of the source. -/
  | readable {location : Location} {mode : Nat} {content : Bytes} {error : IoError}
    (failed : call.failure = some (.io error))
    (found : call.before.find call.artifact.source = .ok (location, .broken mode content error)) :
    Leaves call mode content
  /-- As much as there is room for on the disk. -/
  | fitting {location : Location} {node : Node} {opened : Reading} {room : Nat} {error : IoError}
    (failed : call.failure = some (.io error))
    (found : call.before.find call.artifact.source = .ok (location, node))
    (regular : node.reading = some opened) (full : call.shortage = some ⟨room, error⟩)
    (more : room < opened.content.length) : Leaves call opened.mode (opened.content.take room)

variable {calls : List StagingCall} {call later : StagingCall} {name : String}

theorem namesOf_append_of_failed (failed : call.succeeded = false) :
    namesOf (calls ++ [call]) = namesOf calls := by
  simp [namesOf, failed]

theorem namesOf_append_of_succeeded (succeeded : call.succeeded = true) :
    namesOf (calls ++ [call]) = namesOf calls ++ [call.name] := by
  simp [namesOf, succeeded]

theorem mem_namesOf : name ∈ namesOf calls ↔
    ∃ call ∈ calls, call.name = name ∧ call.succeeded = true := by
  simp only [namesOf, List.mem_map, List.mem_filter]
  constructor
  · rintro ⟨call, ⟨member, succeeded⟩, named⟩
    exact ⟨call, member, named, succeeded⟩
  · rintro ⟨call, member, named, succeeded⟩
    exact ⟨call, ⟨member, succeeded⟩, named⟩

theorem LastFor.append_other (last : LastFor calls name call)
    (other : later.name = name → ¬ later.Left) : LastFor (calls ++ [later]) name call := by
  obtain ⟨earlier, between, rfl, named, left, none⟩ := last
  refine ⟨earlier, between ++ [later], by simp, named, left, ?_⟩
  exact List.forall_mem_append.mpr ⟨none, List.forall_mem_singleton.mpr other⟩

theorem lastFor_append_self (left : call.Left) : LastFor (calls ++ [call]) call.name call :=
  ⟨calls, [], rfl, rfl, left, List.forall_mem_nil _⟩

theorem LastFor.mem (last : LastFor calls name call) :
    call ∈ calls ∧ call.name = name ∧ call.Left := by
  obtain ⟨earlier, between, rfl, named, left, -⟩ := last
  exact ⟨List.mem_append_right _ List.mem_cons_self, named, left⟩

/-- A call that fails and leaves a file fails with an error of the system. -/
theorem Leaves.io {mode : Nat} {content : Bytes} {error : ReleaseError}
    (leaves : call.Leaves mode content) (failed : call.failure = some error) :
    ∃ io, error = .io io := by
  cases leaves with
  | whole succeeded => cases succeeded.symm.trans failed
  | readable failed' | fitting failed' =>
    cases failed'.symm.trans failed
    exact ⟨_, rfl⟩

end StagingCall

/-! ## One call -/

namespace StagingFolder

variable {σ : Type} {folder folder' : StagingFolder} {artifact : Artifact}
  {shortage : Option Shortage} {world after : World σ} {place : Location}
  {children : List (String × Node)}

/-- The call as an entry of a session. -/
def callOf (artifact : Artifact) (shortage : Option Shortage) (world after : World σ)
    (answer : Except ReleaseError StagingFolder) : StagingCall :=
  ⟨artifact, shortage, world.files, match answer with
    | .ok _ => none
    | .error error => some error, after.files⟩

/-- A call fails and changes nothing, or the folder then holds what the call leaves. -/
theorem stage_cases {answer : Except ReleaseError StagingFolder}
    (performed : (folder.stage artifact shortage).perform world = (answer, after))
    (inside : world.files.find folder.path = .ok (place, .folder children))
    (regular : ∀ name node, children.lookup name = some node →
      ∃ mode content, node = .file mode content)
    (apart : ∀ location node, world.files.find artifact.source = .ok (location, node) →
      ¬ place <+: location) :
    ((∃ error, answer = .error error) ∧ after = world) ∨
      artifact.fileName ≠ "" ∧ world.files.isFile artifact.source = true ∧
      ∃ mode content children',
        (callOf artifact shortage world after answer).Leaves mode content ∧
        EntrySet artifact.fileName (.file mode content) children children' ∧
        after.files.find folder.path = .ok (place, .folder children') := by
  rw [perform_stage] at performed
  split at performed
  swap
  · cases performed
    exact .inl ⟨⟨_, rfl⟩, rfl⟩
  next file =>
    have named : artifact.fileName ≠ "" := by
      obtain ⟨location, node, opened, found, readable⟩ := FileSystem.isFile_eq_true.mp file
      obtain ⟨name, ends⟩ :=
        FileSystem.exists_fileName_of_find (node.leaf_of_reading readable) found
      rw [Artifact.fileName, ends]
      exact (Path.isName_of_fileName ends).nonempty
    rcases FileSystem.copyFile_spec inside (artifact.isName named) (fun node => regular _ node)
      artifact.source shortage apart with
      ⟨error, unchanged⟩ | ⟨location, node, opened, files, found, readable, copied, holds⟩
    · rw [unchanged] at performed
      cases performed
      exact .inl ⟨⟨_, rfl⟩, rfl⟩
    · rw [copied] at performed
      obtain ⟨children', set, inside'⟩ := holds.children
      rcases Node.upTo_cases readable shortage with
        ⟨ends, content, rfl⟩ | ⟨error, ends, ⟨content, rfl⟩ | ⟨room, full, more, content⟩⟩
      · rw [ends] at performed
        cases performed
        rw [content] at set
        exact .inr ⟨named, file, _, _, children', .whole rfl found, set, inside'⟩
      · rw [ends] at performed
        cases performed
        rw [content] at set
        exact .inr ⟨named, file, _, _, children', .readable rfl found, set, inside'⟩
      · rw [ends] at performed
        cases performed
        rw [content] at set
        exact .inr ⟨named, file, _, _, children', .fitting rfl found readable full more, set,
          inside'⟩

end StagingFolder

/-! ## Sessions -/

/-- Between two calls files may change, but not what the path of the folder leads to, and the next
source does not stand in the folder. -/
structure Meanwhile (folder : StagingFolder) (files : FileSystem) (artifact : Artifact)
    (now : FileSystem) : Prop where
  same : now.find folder.path = files.find folder.path
  apart : ∀ place node location source, now.find folder.path = .ok (place, node) →
    now.find artifact.source = .ok (location, source) → ¬ place <+: location

/-- Calls one after another on a folder that was fresh, with the folder and the files as they are
after the last one. -/
inductive StagingSession (σ : Type) (platform : Platform) (parent : Option Path) :
    List StagingCall → StagingFolder → FileSystem → Prop
  /-- There was no call yet. -/
  | fresh {folder : StagingFolder} {world after : World σ}
    (created : (StagingFolder.create platform parent).perform world = (.ok folder, after)) :
    StagingSession σ platform parent [] folder after.files
  /-- One more call, which succeeds. -/
  | staged {calls : List StagingCall} {folder folder' : StagingFolder} {files : FileSystem}
    {artifact : Artifact} {shortage : Option Shortage} {world after : World σ}
    (session : StagingSession σ platform parent calls folder files)
    (meanwhile : Meanwhile folder files artifact world.files)
    (performed : (folder.stage artifact shortage).perform world = (.ok folder', after)) :
    StagingSession σ platform parent
      (calls ++ [⟨artifact, shortage, world.files, none, after.files⟩]) folder' after.files
  /-- One more call, which fails. -/
  | failed {calls : List StagingCall} {folder : StagingFolder} {files : FileSystem}
    {artifact : Artifact} {shortage : Option Shortage} {world after : World σ}
    {error : ReleaseError} (session : StagingSession σ platform parent calls folder files)
    (meanwhile : Meanwhile folder files artifact world.files)
    (performed : (folder.stage artifact shortage).perform world = (.error error, after)) :
    StagingSession σ platform parent
      (calls ++ [⟨artifact, shortage, world.files, some error, after.files⟩]) folder after.files

/-- The folder holds under each name what the last call for it left, if there was one. -/
structure HoldsCopies (calls : List StagingCall) (children : List (String × Node)) : Prop where
  nodup : (children.map Prod.fst).Nodup
  entries : ∀ name,
    (children.lookup name = none ∧ ∀ call ∈ calls, call.name = name → ¬ call.Left) ∨
    ∃ call mode content, StagingCall.LastFor calls name call ∧ call.Leaves mode content ∧
      children.lookup name = some (.file mode content)

namespace HoldsCopies

variable {calls : List StagingCall} {call : StagingCall} {children children' : List (String × Node)}

theorem regular (holds : HoldsCopies calls children) (name : String) (node : Node)
    (held : children.lookup name = some node) : ∃ mode content, node = .file mode content := by
  rcases holds.entries name with ⟨absent, -⟩ | ⟨call, mode, content, -, -, copy⟩
  · cases absent.symm.trans held
  · cases copy.symm.trans held
    exact ⟨mode, content, rfl⟩

/-- A call that leaves nothing makes no difference. -/
theorem append_other (holds : HoldsCopies calls children) (other : ¬ call.Left) :
    HoldsCopies (calls ++ [call]) children where
  nodup := holds.nodup
  entries name := by
    rcases holds.entries name with ⟨absent, none⟩ | ⟨last, mode, content, isLast, leaves, copy⟩
    · exact .inl ⟨absent, List.forall_mem_append.mpr
        ⟨none, List.forall_mem_singleton.mpr fun _ => other⟩⟩
    · exact .inr ⟨last, mode, content, isLast.append_other fun _ => other, leaves, copy⟩

/-- A call that leaves something is the last one for its name. -/
theorem append_left (holds : HoldsCopies calls children) (left : call.Left) {mode : Nat}
    {content : Bytes} (leaves : call.Leaves mode content)
    (set : EntrySet call.name (.file mode content) children children') :
    HoldsCopies (calls ++ [call]) children' where
  nodup := set.nodup holds.nodup
  entries name := by
    rw [set.lookup]
    by_cases same : name = call.name
    · rw [if_pos same, same]
      exact .inr ⟨call, mode, content, StagingCall.lastFor_append_self left, leaves, rfl⟩
    · have other (named : call.name = name) : ¬ call.Left := absurd named.symm same
      rw [if_neg same]
      rcases holds.entries name with ⟨absent, none⟩ | ⟨last, mode, content, isLast, leaves, copy⟩
      · exact .inl ⟨absent, List.forall_mem_append.mpr
          ⟨none, List.forall_mem_singleton.mpr other⟩⟩
      · exact .inr ⟨last, mode, content, isLast.append_other other, leaves, copy⟩

/-- The names in the folder are those for which a call left something. -/
theorem mem_names (holds : HoldsCopies calls children) (name : String) :
    name ∈ children.map Prod.fst ↔ ∃ call ∈ calls, call.name = name ∧ call.Left := by
  rcases holds.entries name with ⟨absent, none⟩ | ⟨call, mode, content, last, -, copy⟩
  · refine iff_of_false (AssocList.lookup_eq_none.mp absent) ?_
    rintro ⟨call, member, named, left⟩
    exact none call member named left
  · refine iff_of_true ?_ ⟨call, last.mem⟩
    by_contra absent
    cases (AssocList.lookup_eq_none.mpr absent).symm.trans copy

end HoldsCopies

/-- What can be said of one call by itself. -/
structure StagingCall.Sound (call : StagingCall) : Prop where
  source : call.Left → call.before.isFile call.artifact.source = true ∧ call.name ≠ ""
  failed : ∀ error, call.failure = some error →
    call.after = call.before ∨ ∃ mode content, call.Leaves mode content

namespace StagingSession

variable {σ : Type} {platform : Platform} {parent : Option Path} {calls : List StagingCall}
  {folder : StagingFolder} {files : FileSystem}

/-- What one call does to the folder, every call does. -/
theorem holds (session : StagingSession σ platform parent calls folder files) :
    folder.staged = StagingCall.namesOf calls ∧ (∀ call ∈ calls, call.Sound) ∧
      ∃ place children, files.find folder.path = .ok (place, .folder children) ∧
        HoldsCopies calls children := by
  induction session with
  | @fresh folder world after created =>
    rcases StagingFolder.create_spec platform parent world with
      ⟨error, failed⟩ | ⟨path, made, place, success, -, staged⟩
    · cases failed.symm.trans created
    · cases success.symm.trans created
      refine ⟨rfl, List.forall_mem_nil _, place, [], FileSystem.find_eq_ok.mpr
        ⟨FileSystem.locate_eq_ok.mp (staged.leads true), staged.folder⟩, List.nodup_nil,
        fun _ => .inl ⟨rfl, List.forall_mem_nil _⟩⟩
  | staged session meanwhile performed ih =>
    obtain ⟨names, sound, place, children, inside, holds⟩ := ih
    -- Whatever changed in between, the folder is as the calls before have left it.
    have inside := meanwhile.same.trans inside
    rcases StagingFolder.stage_cases performed inside holds.regular
      fun location node => meanwhile.apart place _ location node inside with
      ⟨⟨error, failed⟩, -⟩ | ⟨named, regular, mode, content, children', leaves, set, inside'⟩
    · cases failed
    obtain rfl := StagingFolder.staged_of_stage performed
    refine ⟨?_, ?_, place, children', inside', holds.append_left (.inl rfl) leaves set⟩
    · rw [StagingCall.namesOf_append_of_succeeded rfl, ← names]
      rfl
    · rw [List.forall_mem_append, List.forall_mem_singleton]
      exact ⟨sound, fun _ => ⟨regular, named⟩, nofun⟩
  | @failed calls folder files artifact shortage world after error session meanwhile performed ih =>
    obtain ⟨names, sound, place, children, inside, holds⟩ := ih
    have inside := meanwhile.same.trans inside
    refine ⟨names.trans (StagingCall.namesOf_append_of_failed rfl).symm, ?_⟩
    rw [List.forall_mem_append, List.forall_mem_singleton]
    by_cases same : after.files = world.files
    · have other :
          ¬ StagingCall.Left ⟨artifact, shortage, world.files, some error, after.files⟩ := by
        rintro (succeeded | changed)
        · cases succeeded
        · exact changed same
      rw [same] at other ⊢
      exact ⟨⟨sound, fun left => absurd left other, fun _ _ => .inl rfl⟩, place, children, inside,
        holds.append_other other⟩
    · rcases StagingFolder.stage_cases performed inside holds.regular
        fun location node => meanwhile.apart place _ location node inside with
        ⟨-, rfl⟩ | ⟨named, regular, mode, content, children', leaves, set, inside'⟩
      · exact absurd rfl same
      exact ⟨⟨sound, fun _ => ⟨regular, named⟩, fun _ _ => .inr ⟨mode, content, leaves⟩⟩, place,
        children', inside', holds.append_left (.inr same) leaves set⟩

/-- After any session the list holds the names of the calls that succeeded, in order, and the folder
holds each name once for which a call left something, and nothing else: a file with what the last
such call for the name left. That is a whole copy if the call succeeded, and else a beginning of its
source, where this cannot be read on or the disk is full. A call succeeds only for a regular file,
whose path has a name. One that fails changes nothing or leaves such a beginning, and it changes
nothing if a source was missing. Where no failing call leaves a beginning, the folder and the list
have the same names. -/
theorem mirrors_calls (session : StagingSession σ platform parent calls folder files) :
    folder.staged = StagingCall.namesOf calls ∧
    (∃ place children, files.find folder.path = .ok (place, .folder children) ∧
      (children.map Prod.fst).Nodup ∧
      (∀ name, name ∈ children.map Prod.fst ↔ ∃ call ∈ calls, call.name = name ∧ call.Left) ∧
      (∀ name node, (name, node) ∈ children → ∃ call mode content,
        StagingCall.LastFor calls name call ∧ call.Leaves mode content ∧
        node = .file mode content) ∧
      ((∀ call ∈ calls, call.succeeded = false → call.after = call.before) →
        ∀ name, name ∈ children.map Prod.fst ↔ name ∈ folder.staged)) ∧
    ∀ call ∈ calls,
      (call.succeeded = true →
        call.before.isFile call.artifact.source = true ∧ call.name ≠ "") ∧
      (∀ error, call.failure = some error →
        call.after = call.before ∨ ∃ mode content, call.Leaves mode content) ∧
      ∀ missing, call.failure = some (.missingArtifact missing) → call.after = call.before := by
  obtain ⟨names, sound, place, children, inside, holds⟩ := session.holds
  refine ⟨names, ⟨place, children, inside, holds.nodup, holds.mem_names, fun name node member => ?_,
    fun traceless name => ?_⟩, fun call member => ⟨fun succeeded => ?_, (sound call member).failed,
    fun missing failed => ?_⟩⟩
  · -- Each name occurs once, so an entry is the one that is found under its name.
    have held := AssocList.lookup_of_mem holds.nodup member
    rcases holds.entries name with ⟨absent, -⟩ | ⟨call, mode, content, last, leaves, copy⟩
    · cases absent.symm.trans held
    · cases copy.symm.trans held
      exact ⟨call, mode, content, last, leaves, rfl⟩
  · rw [holds.mem_names, names, StagingCall.mem_namesOf]
    refine exists_congr fun call => and_congr_right fun member => and_congr_right fun _ => ?_
    exact ⟨fun left => left.elim id fun changed => by_contra fun failed =>
      changed (traceless call member (Bool.eq_false_iff.mpr failed)), .inl⟩
  · exact (sound call member).source (.inl succeeded)
  · refine ((sound call member).failed _ failed).resolve_right ?_
    rintro ⟨mode, content, leaves⟩
    obtain ⟨io, same⟩ := leaves.io failed
    cases same

end StagingSession

/-- Where temporary folders always get the same name. -/
def sessionPlatform : Platform where
  uniqueText _ := "a1B2c3"
  listingOrder := id
  listingOrder_perm := List.Perm.refl
  temporaryFolder := ⟨"/tmp"⟩
  architecture := "x86_64"
  operatingSystem := "linux"
  acceptsLine _ := true

/-- A file with a link to it, and what is where temporary folders go. -/
def linkedWorld (temporary : List (String × Node)) (content : Bytes) : World Unit where
  files :=
    { root := .folder
        [("tmp", .folder temporary),
         ("p", .folder [("file", .file 0o644 content), ("link", .link ⟨"file"⟩)])] }
  outside := ()

/-- The same with a staging folder. -/
def stagingWorld (staged : List (String × Node)) (content : Bytes) : World Unit :=
  linkedWorld [("kak-lsp-release-a1B2c3", .folder staged)] content

def stagingPath : Path := ⟨"/tmp/kak-lsp-release-a1B2c3"⟩

theorem find_stagingPath (staged : List (String × Node)) (content : Bytes) :
    (stagingWorld staged content).files.find stagingPath =
      .ok (["tmp", "kak-lsp-release-a1B2c3"], .folder staged) := rfl

theorem meanwhile_stagingWorld {names : List String} (staged : List (String × Node))
    (old content : Bytes) {artifact : Artifact} {location : Location} {node : Node}
    (found : (stagingWorld staged content).files.find artifact.source = .ok (location, node))
    (apart : ¬ ["tmp", "kak-lsp-release-a1B2c3"] <+: location) :
    Meanwhile ⟨stagingPath, names⟩ (stagingWorld staged old).files artifact
      (stagingWorld staged content).files where
  same := (find_stagingPath staged content).trans (find_stagingPath staged old).symm
  apart place node' location' source inside found' := by
    cases found.symm.trans found'
    cases (find_stagingPath staged content).symm.trans inside
    exact apart

/-- The file that the link leads to. -/
theorem find_link (staged : List (String × Node)) (content : Bytes) :
    (stagingWorld staged content).files.find ⟨"/p/link"⟩ =
      .ok (["p", "file"], .file 0o644 content) := rfl

theorem meanwhile_link {names : List String} (staged : List (String × Node))
    (old content : Bytes) :
    Meanwhile ⟨stagingPath, names⟩ (stagingWorld staged old).files ⟨.license, ⟨"/p/link"⟩⟩
      (stagingWorld staged content).files :=
  meanwhile_stagingWorld staged old content (find_link staged content) (by decide)

theorem meanwhile_folder {names : List String} (staged : List (String × Node))
    (old content : Bytes) :
    Meanwhile ⟨stagingPath, names⟩ (stagingWorld staged old).files ⟨.config, ⟨"/p"⟩⟩
      (stagingWorld staged content).files :=
  @meanwhile_stagingWorld names staged old content _ ["p"] _ rfl (by decide)

theorem meanwhile_file {names : List String} (staged : List (String × Node))
    (old content : Bytes) :
    Meanwhile ⟨stagingPath, names⟩ (stagingWorld staged old).files ⟨.readme, ⟨"/p/file"⟩⟩
      (stagingWorld staged content).files :=
  @meanwhile_stagingWorld names staged old content _ ["p", "file"] _ rfl (by decide)

/-- A disk with room for one byte more. -/
def fullDisk : Shortage := ⟨1, .system 28⟩

theorem stage_link :
    (StagingFolder.stage ⟨stagingPath, []⟩ ⟨.license, ⟨"/p/link"⟩⟩).perform
      (stagingWorld [] [1]) =
    (.ok ⟨stagingPath, ["link"]⟩, stagingWorld [("link", .file 0o644 [1])] [1]) := by
  rw [StagingFolder.perform_stage]
  rfl

theorem stage_folder :
    (StagingFolder.stage ⟨stagingPath, ["link"]⟩ ⟨.config, ⟨"/p"⟩⟩).perform
      (stagingWorld [("link", .file 0o644 [1])] [2, 3]) =
    (.error (.missingArtifact ⟨"/p"⟩), stagingWorld [("link", .file 0o644 [1])] [2, 3]) := by
  rw [StagingFolder.perform_stage]
  rfl

theorem stage_link_again :
    (StagingFolder.stage ⟨stagingPath, ["link"]⟩ ⟨.license, ⟨"/p/link"⟩⟩ (some fullDisk)).perform
      (stagingWorld [("link", .file 0o644 [1])] [2, 3]) =
    (.error (.io (.system 28)), stagingWorld [("link", .file 0o644 [2])] [2, 3]) := by
  rw [StagingFolder.perform_stage]
  rfl

theorem stage_file :
    (StagingFolder.stage ⟨stagingPath, ["link"]⟩ ⟨.readme, ⟨"/p/file"⟩⟩).perform
      (stagingWorld [("link", .file 0o644 [2])] [2, 3]) =
    (.ok ⟨stagingPath, ["link", "file"]⟩,
      stagingWorld [("file", .file 0o644 [2, 3]), ("link", .file 0o644 [2])] [2, 3]) := by
  rw [StagingFolder.perform_stage]
  rfl

/-- The link is staged, a folder is refused, and after its file has changed the link is staged again
on a full disk. Then there is room for the file itself. -/
def changingCalls : List StagingCall :=
  [⟨⟨.license, ⟨"/p/link"⟩⟩, none, (stagingWorld [] [1]).files, none,
      (stagingWorld [("link", .file 0o644 [1])] [1]).files⟩,
    ⟨⟨.config, ⟨"/p"⟩⟩, none, (stagingWorld [("link", .file 0o644 [1])] [2, 3]).files,
      some (.missingArtifact ⟨"/p"⟩), (stagingWorld [("link", .file 0o644 [1])] [2, 3]).files⟩,
    ⟨⟨.license, ⟨"/p/link"⟩⟩, some fullDisk,
      (stagingWorld [("link", .file 0o644 [1])] [2, 3]).files, some (.io (.system 28)),
      (stagingWorld [("link", .file 0o644 [2])] [2, 3]).files⟩,
    ⟨⟨.readme, ⟨"/p/file"⟩⟩, none, (stagingWorld [("link", .file 0o644 [2])] [2, 3]).files, none,
      (stagingWorld [("file", .file 0o644 [2, 3]), ("link", .file 0o644 [2])] [2, 3]).files⟩]

theorem stagingSession_changingCalls :
    StagingSession Unit sessionPlatform none changingCalls ⟨stagingPath, ["link", "file"]⟩
      (stagingWorld [("file", .file 0o644 [2, 3]), ("link", .file 0o644 [2])] [2, 3]).files := by
  have created : (StagingFolder.create sessionPlatform none).perform (linkedWorld [] [1]) =
      (.ok ⟨stagingPath, []⟩, stagingWorld [] [1]) := by
    rw [StagingFolder.perform_create]
    rfl
  have first := (StagingSession.fresh created).staged (meanwhile_link [] [1] [1]) stage_link
  have second := first.failed (meanwhile_folder _ [1] [2, 3]) stage_folder
  have third := second.failed (meanwhile_link _ [2, 3] [2, 3]) stage_link_again
  exact third.staged (meanwhile_file _ [2, 3] [2, 3]) stage_file

/-- In the end the folder holds a whole copy of the file and, in place of the first copy of the
link, the one byte that was copied the second time. -/
theorem StagingSession.mirrors_calls_changing :
    StagingSession Unit sessionPlatform none changingCalls ⟨stagingPath, ["link", "file"]⟩
      (stagingWorld [("file", .file 0o644 [2, 3]), ("link", .file 0o644 [2])] [2, 3]).files ∧
    StagingCall.namesOf changingCalls = ["link", "file"] ∧
    ∃ place children,
      (stagingWorld [("file", .file 0o644 [2, 3]), ("link", .file 0o644 [2])] [2, 3]).files.find
        stagingPath = .ok (place, .folder children) ∧
      children = [("file", .file 0o644 [2, 3]), ("link", .file 0o644 [2])] ∧
      (∃ call, StagingCall.LastFor changingCalls "link" call ∧ call.Leaves 0o644 [2]) ∧
      ∃ call, StagingCall.LastFor changingCalls "file" call ∧ call.Leaves 0o644 [2, 3] := by
  obtain ⟨names, ⟨place, children, inside, -, -, copies, -⟩, -⟩ :=
    StagingSession.mirrors_calls stagingSession_changingCalls
  cases (find_stagingPath _ [2, 3]).symm.trans inside
  refine ⟨stagingSession_changingCalls, names.symm, _, _, inside, rfl, ?_, ?_⟩
  · obtain ⟨call, mode, content, last, leaves, same⟩ := copies "link" (.file 0o644 [2]) (by simp)
    cases same
    exact ⟨call, last, leaves⟩
  · obtain ⟨call, mode, content, last, leaves, same⟩ := copies "file" (.file 0o644 [2, 3]) (by simp)
    cases same
    exact ⟨call, last, leaves⟩

/-- A file of which nothing can be read, beside a staging folder. -/
def unreadableWorld (temporary : List (String × Node)) : World Unit where
  files :=
    { root := .folder
        [("tmp", .folder temporary), ("p", .folder [("mem", .broken 0o600 [] (.system 5))])] }
  outside := ()

/-- The folder and the list may have different names: a file that cannot be read leaves an empty
copy that is not listed. -/
theorem StagingSession.not_mirrors_list :
    ¬ ∀ (calls : List StagingCall) (folder : StagingFolder) (files : FileSystem),
      StagingSession Unit sessionPlatform none calls folder files →
      ∃ place children, files.find folder.path = .ok (place, .folder children) ∧
        ∀ name, name ∈ children.map Prod.fst ↔ name ∈ folder.staged := by
  intro mirrors
  have created : (StagingFolder.create sessionPlatform none).perform (unreadableWorld []) =
      (.ok ⟨stagingPath, []⟩, unreadableWorld [("kak-lsp-release-a1B2c3", .folder [])]) := by
    rw [StagingFolder.perform_create]
    rfl
  have performed : (StagingFolder.stage ⟨stagingPath, []⟩ ⟨.license, ⟨"/p/mem"⟩⟩).perform
      (unreadableWorld [("kak-lsp-release-a1B2c3", .folder [])]) =
        (.error (.io (.system 5)),
          unreadableWorld [("kak-lsp-release-a1B2c3", .folder [("mem", .file 0o600 [])])]) := by
    rw [StagingFolder.perform_stage]
    rfl
  have meanwhile : Meanwhile ⟨stagingPath, []⟩
      (unreadableWorld [("kak-lsp-release-a1B2c3", .folder [])]).files ⟨.license, ⟨"/p/mem"⟩⟩
      (unreadableWorld [("kak-lsp-release-a1B2c3", .folder [])]).files := by
    refine ⟨rfl, fun place node location source inside found => ?_⟩
    cases inside
    cases found
    decide
  obtain ⟨place, children, inside, same⟩ :=
    mirrors _ _ _ ((StagingSession.fresh created).failed meanwhile performed)
  cases inside
  have listed := (same "mem").mp (by simp)
  cases listed

end ReleasePacker
