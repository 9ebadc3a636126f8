import ReleasePacker.Proofs.FileSystem.Components
import ReleasePacker.Proofs.FileSystem.Effects

/-!
# Copies in a folder

A file is copied into a folder under a name, whether the folder has a file of that name or not. The
folder then holds the copy under the name and is otherwise the same. And a path that leads to a file
ends in a name, so there is a name to copy it to.
-/

namespace ReleasePacker

/-! ## Entries by name -/

namespace AssocList

variable {α : Type} {list : List (String × α)} {name : String}

theorem lookup_eq_none : list.lookup name = none ↔ name ∉ list.map Prod.fst := by
  rw [List.lookup_eq_none_iff, List.mem_map]
  constructor
  · rintro other ⟨item, member, rfl⟩
    exact bne_iff_ne.mp (other item member) rfl
  · intro unlisted item member
    exact bne_iff_ne.mpr fun same => unlisted ⟨item, member, same.symm⟩

/-- Where each name is there once, what is listed is what is looked up. -/
theorem lookup_of_mem (nodup : (list.map Prod.fst).Nodup) {value : α}
    (member : (name, value) ∈ list) : list.lookup name = some value := by
  obtain ⟨front, back, rfl⟩ := List.append_of_mem member
  refine List.lookup_eq_some_iff.mpr ⟨front, back, rfl, fun item before => ?_⟩
  rw [List.map_append, List.nodup_append] at nodup
  exact bne_iff_ne.mpr fun same =>
    nodup.2.2 item.1 (List.mem_map_of_mem before) name List.mem_cons_self same.symm

end AssocList

/-! ## Setting an entry -/

/-- The entries of a folder after a name was given a node, and no other name another one. -/
structure EntrySet (name : String) (node : Node) (before after : List (String × Node)) : Prop where
  lookup : ∀ other, after.lookup other = if other = name then some node else before.lookup other
  nodup : (before.map Prod.fst).Nodup → (after.map Prod.fst).Nodup

namespace EntrySet

variable {name : String} {node next : Node} {before middle after : List (String × Node)}

theorem trans (first : EntrySet name node before middle)
    (second : EntrySet name next middle after) :
    EntrySet name next before after where
  lookup other := by
    rw [second.lookup, first.lookup]
    split <;> rfl
  nodup distinct := second.nodup (first.nodup distinct)

theorem of_insert (name : String) (node : Node) (list : List (String × Node)) :
    EntrySet name node list ((name, node) :: list.filter fun item => item.1 ≠ name) where
  lookup other := by
    by_cases same : other = name
    · rw [if_pos same, same, List.lookup_cons_self]
    · rw [if_neg same, List.lookup_cons, beq_false_of_ne same, AssocList.lookup_filter_ne,
        if_neg same]
  nodup distinct := by
    rw [List.map_cons, List.nodup_cons]
    refine ⟨fun member => ?_, distinct.sublist (List.filter_sublist.map Prod.fst)⟩
    obtain ⟨item, inside, same⟩ := List.mem_map.mp member
    exact of_decide_eq_true (List.mem_filter.mp inside).2 same

theorem of_map {list : List (String × Node)} (there : list.lookup name ≠ none) (node : Node) :
    EntrySet name node list
      (list.map fun item => if item.1 = name then (item.1, node) else item) where
  lookup other := by
    rw [AssocList.lookup_map_at name other fun _ => node]
    split
    next same =>
      obtain ⟨old, held⟩ := Option.ne_none_iff_exists'.mp there
      rw [same, held, Option.map_some]
    · rfl
  nodup distinct := by
    have names : (list.map fun item =>
        if item.1 = name then (item.1, node) else item).map Prod.fst = list.map Prod.fst := by
      rw [List.map_map]
      refine List.map_congr_left fun item _ => ?_
      rw [Function.comp_apply]
      split <;> rfl
    rwa [names]

end EntrySet

namespace FileSystem

variable {files after : FileSystem} {path source : Path} {place : Location} {name : String}
  {children : List (String × Node)} {mode : Nat} {content : Bytes}

/-! ## Paths to files -/

/-- Steps of which the last one enters no name lead to a folder. -/
theorem Leads.folder_of_concat {last : Bool} {links : Nat} {here location : Location}
    {front : List Step} {step : Step} {passed : List Location}
    (leads : Leads files last links here (front ++ [step]) passed (.found location))
    (other : ∀ name, step ≠ .enter name) : files.entryAt location = some .folder := by
  generalize whole : front ++ [step] = path at leads
  generalize ending : Destination.found location = destination at leads
  induction leads generalizing front with
  | done => simp at whole
  | stay inside onward ih =>
    cases front with
    | nil =>
      cases whole
      cases onward
      cases ending
      exact inside
    | cons first rest =>
      cases whole
      exact ih rfl ending
  | @up links here rest passed destination inside onward ih =>
    cases front with
    | nil =>
      cases whole
      cases onward
      cases ending
      rcases List.eq_nil_or_concat here with rfl | ⟨above, name, rfl⟩
      · exact inside
      · rw [List.concat_eq_append] at inside ⊢
        rw [List.dropLast_concat]
        exact FileSystem.entryAt_of_concat (by rw [inside]; exact nofun)
    | cons first rest =>
      cases whole
      exact ih rfl ending
  | enter _ _ _ _ _ ih =>
    cases front with
    | nil =>
      cases whole
      exact absurd rfl (other _)
    | cons first rest =>
      cases whole
      exact ih rfl ending
  | vacant => cases ending
  | halt =>
    cases front with
    | nil =>
      cases whole
      exact absurd rfl (other _)
    | cons first rest => simp at whole
  | link _ _ _ _ _ ih =>
    cases front with
    | nil =>
      cases whole
      exact absurd rfl (other _)
    | cons first rest =>
      cases whole
      exact ih (List.append_assoc _ _ _) ending

/-- The last step to a file enters a name; any other asks for a folder. -/
theorem enters_of_find {node : Node} (leaf : node.entry ≠ .folder)
    (found : files.find source = .ok (place, node)) {front : List Step} {step : Step}
    (ending : steps source = front ++ [step]) :
    ∃ name, step = .enter name := by
  obtain ⟨leads, held⟩ := find_eq_ok.mp found
  obtain ⟨-, passed, leads⟩ := follow_eq_ok.mp leads
  by_contra other
  rw [ending] at leads
  have folder := leads.folder_of_concat fun name same => other ⟨name, same⟩
  exact leaf (Option.some.inj ((entryAt_of_get? held).symm.trans folder))

/-- A path to a file ends in a name. -/
theorem exists_fileName_of_find {node : Node} (leaf : node.entry ≠ .folder)
    (found : files.find source = .ok (place, node)) :
    ∃ name, source.fileName = some name := by
  obtain ⟨init, piece, pieces⟩ := (List.eq_nil_or_concat _).resolve_left source.pieces_ne_nil
  rw [List.concat_eq_append] at pieces
  have taken {step : Step} (asks : stepOf piece = some step) :
      takenSteps source = init.filterMap stepOf ++ [step] := by
    rw [takenSteps, pieces, List.filterMap_append, List.filterMap_cons, asks, List.filterMap_nil]
  have nonempty : piece ≠ "" := by
    rintro rfl
    have steps : steps source = takenSteps source ++ [.stay] := by
      rw [steps, pieces, List.getLast?_concat, if_pos rfl]
    obtain ⟨name, same⟩ := enters_of_find leaf found steps
    cases same
  have steps : steps source = takenSteps source := by
    have last : source.pieces.getLast? ≠ some "" := by
      rw [pieces, List.getLast?_concat]
      exact fun same => nonempty (Option.some.inj same)
    rw [steps, if_neg last]
  refine ⟨piece, Path.fileName_of_pieces pieces (Path.componentOf_of_ne ?_ ?_)⟩
  · rw [Ne, Path.componentOf_eq_none, not_or]
    refine ⟨nonempty, ?_⟩
    rintro rfl
    obtain ⟨name, same⟩ := enters_of_find leaf found (steps.trans (taken rfl))
    cases same
  · rintro rfl
    obtain ⟨name, same⟩ := enters_of_find leaf found (steps.trans (taken rfl))
    cases same

/-- Where a path goes that goes nowhere from another one, there is no file, only a folder. -/
theorem isFile_join_of_rests (files : FileSystem) (base : Path) {other : Path}
    (rests : other.Rests) : files.isFile (base / other) = false := by
  -- All that the second path asks for is a folder, and it asks for at least one.
  have staying : ∀ step ∈ steps other, step = .stay := by
    have taken : ∀ step ∈ takenSteps other, step = .stay := by
      intro step member
      obtain ⟨piece, inside, asked⟩ := List.mem_filterMap.mp member
      rcases rests.2 piece inside with rfl | rfl
      · cases asked
      · exact (Option.some.inj asked).symm
    rcases steps_eq_taken other with all | all <;> rw [all]
    · exact taken
    · exact List.forall_mem_append.mpr ⟨taken, by simp⟩
  obtain ⟨init, step, ending⟩ :=
    (List.eq_nil_or_concat (steps other)).resolve_left (steps_ne_nil other)
  rw [List.concat_eq_append] at ending
  obtain rfl : step = .stay := staying step (by simp [ending])
  rw [Bool.eq_false_iff]
  intro file
  obtain ⟨location, node, opened, found, regular⟩ := isFile_eq_true.mp file
  have last : steps (base / other) = (takenSteps base ++ init) ++ [.stay] := by
    refine (steps_join_of_relative base rests.1).trans ?_
    rw [ending, List.append_assoc]
  obtain ⟨name, same⟩ := enters_of_find (node.leaf_of_reading regular) found last
  cases same

/-! ## Writing to a folder -/

theorem get?_of_find (inside : files.find path = .ok (place, .folder children)) (name : String) :
    files.root.get? (place ++ [name]) = children.lookup name := by
  rw [Node.get?_concat, (find_eq_ok.mp inside).2]
  rfl

theorem find_put (inside : files.find path = .ok (place, .folder children))
    (free : children.lookup name = none) (node : Node) :
    (files.put place name node).find path =
      .ok (place, .folder ((name, node) :: children.filter fun item => item.1 ≠ name)) := by
  obtain ⟨leads, held⟩ := find_eq_ok.mp inside
  have nothing : files.entryAt (place ++ [name]) = none := by
    rw [entryAt, Node.entryAt, get?_of_find inside, free, Option.map_none]
  refine find_eq_ok.mpr
    ⟨follow_of_kept leads rfl fun l there => sameShape_put nothing node there, ?_⟩
  have there := Node.get?_alter_append (Node.insertChild name node) place [] files.root
  rw [List.append_nil, held, Option.bind_some, Node.get?_nil] at there
  exact there

theorem find_replace (inside : files.find path = .ok (place, .folder children))
    (held : files.root.get? (place ++ [name]) = some (.file mode content)) (mode' : Nat)
    (content' : Bytes) :
    (files.replace (place ++ [name]) (.file mode' content')).find path =
      .ok (place, .folder (children.map fun item =>
        if item.1 = name then (item.1, .file mode' content') else item)) := by
  obtain ⟨leads, there⟩ := find_eq_ok.mp inside
  refine find_eq_ok.mpr
    ⟨follow_of_kept leads rfl fun l _ => sameShape_replace held mode' content' l, ?_⟩
  rw [replace, Node.get?_alter_above, there, Option.map_some]
  rfl

/-- A folder to which a path leads, and a file in it under a name, to which the longer path leads.
It is how a folder stands after the file was written. -/
structure HoldsFile (files : FileSystem) (path : Path) (place : Location) (name : String)
    (mode : Nat) (content : Bytes) (before : List (String × Node)) (after : FileSystem) : Prop where
  children : ∃ children, EntrySet name (.file mode content) before children ∧
    after.find path = .ok (place, .folder children)
  file : after.find (path / name) = .ok (place ++ [name], .file mode content)
  outside : ∀ location, ¬ place <+: location → after.entryAt location = files.entryAt location

namespace HoldsFile

/-- The file can be replaced by another one. -/
theorem replace {before : List (String × Node)}
    (holds : HoldsFile files path place name mode content before after) (mode' : Nat)
    (content' : Bytes) :
    HoldsFile files path place name mode' content' before
      (after.replace (place ++ [name]) (.file mode' content')) := by
  obtain ⟨children, set, inside⟩ := holds.children
  obtain ⟨leads, held⟩ := find_eq_ok.mp holds.file
  have there : children.lookup name ≠ none := by
    rw [← get?_of_find inside, held]
    exact nofun
  have held' := get?_replace_append held (.file mode' content') []
  rw [List.append_nil, Node.get?_nil] at held'
  refine ⟨⟨_, set.trans (.of_map there _), find_replace inside held mode' content'⟩,
    find_eq_ok.mpr ⟨follow_of_kept leads rfl fun l _ => sameShape_replace held mode' content' l,
      held'⟩, fun location outside => ?_⟩
  rw [entryAt_replace_of_not_below _ _ fun below =>
    outside ((List.prefix_append place [name]).trans below), holds.outside location outside]

end HoldsFile

section

variable (inside : files.find path = .ok (place, .folder children)) (plain : Path.IsName name)
  (regular : ∀ node, children.lookup name = some node → ∃ mode content, node = .file mode content)
include inside plain regular

/-- Content is written to a name under which there is nothing or a file. -/
theorem writeFile_spec (written : files.writeFile (path / name) content mode = .ok after) :
    ∃ mode', HoldsFile files path place name mode' content children after := by
  obtain ⟨base, -⟩ := find_eq_ok.mp inside
  have noLink (target : Path) : files.entryAt (place ++ [name]) ≠ some (.link target) := by
    intro link
    obtain ⟨node, held, same⟩ := get?_isSome_of_entryAt link
    obtain ⟨mode, content, rfl⟩ := regular node ((get?_of_find inside name).symm.trans held)
    cases same
  rcases writeFile_eq_ok.mp written with
    ⟨there, node, old, leads, held, opened, rfl⟩ | ⟨folder, other, leads, rfl⟩
  · obtain ⟨-, ⟨same, -⟩ | ⟨same, -⟩ | ⟨target, link⟩⟩ :=
      follow_join plain (locate_eq_ok.mpr base) leads
    · cases same
    · cases same
      obtain ⟨mode, was, rfl⟩ := regular node ((get?_of_find inside name).symm.trans held)
      cases opened
      have same : HoldsFile files path place name mode was children files :=
        ⟨⟨children, ⟨fun other => ?_, id⟩, inside⟩, find_eq_ok.mpr ⟨leads, held⟩, fun _ _ => rfl⟩
      · exact ⟨mode, same.replace mode content⟩
      · split
        next this => rw [this, ← get?_of_find inside, held]
        · rfl
    · exact absurd link (noLink target)
  · obtain ⟨folder', ⟨same, nothing⟩ | ⟨same, -⟩ | ⟨target, link⟩⟩ :=
      follow_join plain (locate_eq_ok.mpr base) leads
    · cases same
      have free : children.lookup name = none := by
        rw [← get?_of_find inside]
        simpa [entryAt, Node.entryAt] using nothing
      have held := get?_put_append (find_eq_ok.mp inside).2 name (.file mode content) []
      rw [List.append_nil, Node.get?_nil] at held
      refine ⟨mode, ⟨_, .of_insert name _ children, find_put inside free _⟩,
        find_eq_ok.mpr ⟨follow_put_file leads mode content, held⟩, fun location outside => ?_⟩
      exact entryAt_put_of_not_below place name _ fun below =>
        outside ((List.prefix_append place [name]).trans below)
    · cases same
    · exact absurd link (noLink target)

/-- A file from outside the folder is copied to a name under which there is nothing or a file, as
far as it can be, or nothing changes. -/
theorem copyFile_spec (source : Path) (shortage : Option Shortage)
    (apart : ∀ location node, files.find source = .ok (location, node) → ¬ place <+: location) :
    (∃ error, files.copyFile source (path / name) shortage = (.error error, files)) ∨
      ∃ location node opened after, files.find source = .ok (location, node) ∧
        node.reading = some opened ∧
        files.copyFile source (path / name) shortage =
          ((opened.upTo shortage).result, after) ∧
        HoldsFile files path place name opened.mode (opened.upTo shortage).content children
          after := by
  rcases copyFile_cases files source (path / name) shortage with
    unchanged | ⟨location, node, opened, emptied, found, readable, empty⟩
  · exact .inl unchanged
  obtain ⟨mode', first⟩ := writeFile_spec inside plain regular empty
  have second := first.replace opened.mode []
  -- The source stands elsewhere, so it is still there when it is read.
  have leaf := node.leaf_of_reading readable
  have kept : (emptied.replace (place ++ [name]) (.file opened.mode [])).root.get? location =
      some node := by
    rw [get?_eq_leaf leaf, second.outside location (apart location _ found)]
    exact (get?_eq_leaf leaf).mp (find_eq_ok.mp found).2
  exact .inr ⟨location, node, opened, _, found, readable,
    copyFile_of_writeFile shortage found readable empty first.file kept,
    second.replace opened.mode (opened.upTo shortage).content⟩

end

end FileSystem
end ReleasePacker
