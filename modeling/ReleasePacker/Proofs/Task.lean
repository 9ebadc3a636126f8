import Mathlib.Tactic.Common
import ReleasePacker.World

/-!
# What tasks come to

A task is performed in a world and comes to an answer or a failure and to a world. What a task
made of others comes to follows from its parts, so a task is taken apart here once and for all:
later proofs cite these equations and never open the monad.
-/

namespace ReleasePacker.Task

variable {σ α β : Type}

@[simp] theorem perform_pure (a : α) (world : World σ) :
    (pure a : Task σ α).perform world = (.ok a, world) := rfl

@[simp] theorem perform_throw (error : ReleaseError) (world : World σ) :
    (throw error : Task σ α).perform world = (.error error, world) := rfl

@[simp] theorem perform_get (world : World σ) :
    (get : Task σ (World σ)).perform world = (.ok world, world) := rfl

@[simp] theorem perform_set (world other : World σ) :
    (set other : Task σ PUnit).perform world = (.ok ⟨⟩, other) := rfl

/-- A task hands its answer on to the next one; a failure ends the whole. -/
theorem perform_bind (task : Task σ α) (next : α → Task σ β) (world : World σ) :
    (task >>= next).perform world =
      match task.perform world with
      | (.ok a, middle) => (next a).perform middle
      | (.error error, middle) => (.error error, middle) := by
  change (ExceptT.bindCont next (task.perform world).1 : StateM (World σ) _)
    (task.perform world).2 = _
  rcases task.perform world with ⟨_ | _, _⟩ <;> rfl

theorem perform_bind_of_ok {task : Task σ α} {world middle : World σ} {a : α}
    (first : task.perform world = (.ok a, middle)) (next : α → Task σ β) :
    (task >>= next).perform world = (next a).perform middle := by
  rw [perform_bind, first]

theorem perform_bind_of_error {task : Task σ α} {world middle : World σ} {error : ReleaseError}
    (first : task.perform world = (.error error, middle)) (next : α → Task σ β) :
    (task >>= next).perform world = (.error error, middle) := by
  rw [perform_bind, first]

/-- Two tasks in a row succeed exactly if both do. -/
theorem perform_bind_eq_ok {task : Task σ α} {next : α → Task σ β} {world finish : World σ}
    {b : β} :
    (task >>= next).perform world = (.ok b, finish) ↔
      ∃ a middle, task.perform world = (.ok a, middle) ∧
        (next a).perform middle = (.ok b, finish) := by
  rw [perform_bind]
  rcases task.perform world with ⟨error | a, middle⟩ <;> simp

@[simp] theorem perform_liftExcept (result : Except ReleaseError α) (world : World σ) :
    (liftExcept result : Task σ α).perform world = (result, world) := by
  cases result <;> rfl

@[simp] theorem perform_inspect (look : FileSystem → α) (world : World σ) :
    (inspect look).perform world = (.ok (look world.files), world) := rfl

@[simp] theorem perform_alterFiles (failure : IoError → ReleaseError)
    (change : FileSystem → Except IoError Unit × FileSystem) (world : World σ) :
    (alterFiles failure change).perform world =
      match change world.files with
      | (.ok (), files) => (.ok (), { world with files })
      | (.error error, files) => (.error (failure error), { world with files }) := rfl

@[simp] theorem perform_tryChangeFiles (change : FileSystem → Except IoError FileSystem)
    (world : World σ) :
    (tryChangeFiles change).perform world =
      (.ok (), match change world.files with
        | .ok files => { world with files }
        | .error _ => world) := rfl

/-- What is done in any case changes the world and leaves the answer. -/
@[simp] theorem perform_andAlways (task : Task σ α) (cleanup : Task σ Unit) (world : World σ) :
    (andAlways task cleanup).perform world =
      ((task.perform world).1, (cleanup.perform (task.perform world).2).2) := rfl

@[simp] theorem perform_writeLine (platform : Platform) (line : String) (world : World σ) :
    (writeLine platform line).perform world =
      (.ok (), world.record (.wroteLine line (platform.acceptsLine world.linesTried))) := rfl

/-- The world after a command whose output was collected. -/
def afterCommand (executor : Executor σ) (command : Command) (world : World σ) : World σ :=
  let reply := executor.run command world.outside world.files
  { files := reply.files, outside := reply.outside,
    events := world.events ++ [.ran command reply.result] }

/-- The world after a command that wrote to the error stream. -/
def afterAttached (executor : Executor σ) (command : Command) (world : World σ) : World σ :=
  let reply := executor.runAttached command world.outside world.files
  { files := reply.files, outside := reply.outside,
    events := world.events ++ [.ranAttached command reply.result reply.shown] }

@[simp] theorem perform_runCommand (executor : Executor σ) (command : Command)
    (world : World σ) :
    (runCommand executor command).perform world =
      (.ok (executor.run command world.outside world.files).result,
        afterCommand executor command world) := rfl

@[simp] theorem perform_runAttached (executor : Executor σ) (command : Command)
    (world : World σ) :
    (runAttached executor command).perform world =
      (.ok (executor.runAttached command world.outside world.files).result,
        afterAttached executor command world) := rfl

/-- Whether an answer with collected output is that of a success. -/
def succeeded : Except ReleaseError Output → Bool
  | .ok output => output.status.isSuccess
  | .error _ => false

@[simp] theorem perform_commandSucceeds (executor : Executor σ) (command : Command)
    (world : World σ) :
    (commandSucceeds executor command).perform world =
      (.ok (succeeded (executor.run command world.outside world.files).result),
        afterCommand executor command world) := by
  rw [commandSucceeds, perform_bind, perform_runCommand]
  cases (executor.run command world.outside world.files).result <;> rfl

/-! ## Tasks that ask nobody -/

/-- A task has nobody else take a step: all that it does besides changing files is to write
lines to the error stream. -/
def OnlyTells (task : Task σ α) : Prop :=
  ∀ world, (task.perform world).2.outside = world.outside ∧
    ∃ lines : List (String × Bool), (task.perform world).2.events =
      world.events ++ lines.map fun line => .wroteLine line.1 line.2

namespace OnlyTells

theorem of_events_eq {task : Task σ α}
    (same : ∀ world, (task.perform world).2.outside = world.outside ∧
      (task.perform world).2.events = world.events) : task.OnlyTells :=
  fun world => ⟨(same world).1, [], by rw [(same world).2, List.map_nil, List.append_nil]⟩

theorem pure (a : α) : (pure a : Task σ α).OnlyTells := of_events_eq fun _ => ⟨rfl, rfl⟩

theorem throw (error : ReleaseError) : (throw error : Task σ α).OnlyTells :=
  of_events_eq fun _ => ⟨rfl, rfl⟩

theorem inspect (look : FileSystem → α) : (Task.inspect look : Task σ α).OnlyTells :=
  of_events_eq fun _ => ⟨rfl, rfl⟩

theorem alterFiles (failure : IoError → ReleaseError)
    (change : FileSystem → Except IoError Unit × FileSystem) :
    (Task.alterFiles failure change : Task σ Unit).OnlyTells := by
  refine of_events_eq fun world => ?_
  rw [perform_alterFiles]
  rcases change world.files with ⟨error | _, files⟩ <;> exact ⟨rfl, rfl⟩

theorem tryChangeFiles (change : FileSystem → Except IoError FileSystem) :
    (Task.tryChangeFiles change : Task σ Unit).OnlyTells := by
  refine of_events_eq fun world => ?_
  rw [perform_tryChangeFiles]
  cases change world.files <;> exact ⟨rfl, rfl⟩

theorem writeLine (platform : Platform) (line : String) :
    (Task.writeLine platform line : Task σ Unit).OnlyTells :=
  fun world => ⟨rfl, [(line, platform.acceptsLine world.linesTried)], rfl⟩

theorem bind {task : Task σ α} {next : α → Task σ β} (first : task.OnlyTells)
    (second : ∀ a, (next a).OnlyTells) : (task >>= next).OnlyTells := by
  intro world
  obtain ⟨outside, lines, events⟩ := first world
  rcases ending : task.perform world with ⟨error | a, middle⟩
  · rw [perform_bind_of_error ending]
    rw [ending] at outside events
    exact ⟨outside, lines, events⟩
  · rw [perform_bind_of_ok ending]
    rw [ending] at outside events
    obtain ⟨outsideLater, more, eventsLater⟩ := second a middle
    refine ⟨outsideLater.trans outside, lines ++ more, ?_⟩
    rw [eventsLater, events, List.map_append, List.append_assoc]

theorem andAlways {task : Task σ α} {cleanup : Task σ Unit} (first : task.OnlyTells)
    (second : cleanup.OnlyTells) : (Task.andAlways task cleanup).OnlyTells := by
  intro world
  obtain ⟨outside, lines, events⟩ := first world
  obtain ⟨outsideLater, more, eventsLater⟩ := second (task.perform world).2
  rw [perform_andAlways]
  refine ⟨outsideLater.trans outside, lines ++ more, ?_⟩
  rw [eventsLater, events, List.map_append, List.append_assoc]

end OnlyTells
end ReleasePacker.Task
