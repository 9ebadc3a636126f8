import Mathlib.Data.List.Basic
import ReleasePacker.Process.Scripted

/-!
# Scripted programs play their script

A scripted executor uses up one expectation for each call, whether the two agree or not, and
answers by it alone. So a run that was never told of a mismatch and has left nothing of the script
over has made the scripted calls and no others.
-/

namespace ReleasePacker

/-- A call of an executor. -/
inductive Call where
  /-- To collect what the program writes. -/
  | run (command : Command)
  /-- To let the program write to the error stream. -/
  | runAttached (command : Command)
  deriving DecidableEq, Repr

/-- What a call is answered with: an output, or only how the program ended. -/
abbrev Answer := Except ReleaseError (Output ⊕ WaitStatus)

/-- Whether an answer says that a call did not go by the script. -/
def Answer.IsMismatch (answer : Answer) : Prop :=
  ∃ message, answer = .error (.scriptMismatch message)

/-- What calls come to. -/
structure Played (σ : Type) where
  /-- The answers, in order. -/
  answers : List Answer
  /-- What the programs remember afterwards. -/
  outside : σ
  /-- The files afterwards. -/
  files : FileSystem

theorem Command.eq_iff (first second : Command) :
    first = second ↔
      first.program = second.program ∧ first.arguments = second.arguments := by
  cases first
  cases second
  rw [mk.injEq]

namespace Call

/-- The command that is to be run. -/
def command : Call → Command
  | run command => command
  | runAttached command => command

/-- What a call hands on of an output. -/
def view : Call → Output → Output ⊕ WaitStatus
  | run _, output => .inl output
  | runAttached _, output => .inr output.status

section Executor

variable {σ : Type} (executor : Executor σ)

/-- Makes a call. -/
def make (call : Call) (outside : σ) (files : FileSystem) : Reply σ (Output ⊕ WaitStatus) :=
  match call with
  | run command =>
    let reply := executor.run command outside files
    ⟨reply.result.map .inl, reply.shown, reply.outside, reply.files⟩
  | runAttached command =>
    let reply := executor.runAttached command outside files
    ⟨reply.result.map .inr, reply.shown, reply.outside, reply.files⟩

/-- Makes calls one after another. -/
def makeAll : List Call → σ → FileSystem → Played σ
  | [], outside, files => ⟨[], outside, files⟩
  | call :: later, outside, files =>
    let reply := call.make executor outside files
    let played := makeAll later reply.outside reply.files
    ⟨reply.result :: played.answers, played.outside, played.files⟩

end Executor

/-- The answer that a script has for a call where `expected?` stands at its place: the result
there, as far as the call hands it on, if program and arguments are those that are expected, and
otherwise a mismatch. -/
def AnsweredBy (call : Call) (answer : Answer) (expected? : Option Expectation) : Prop :=
  match expected? with
  | none => answer.IsMismatch
  | some next =>
    if next.command.program = call.command.program ∧
        next.command.arguments = call.command.arguments then
      answer = next.result.map call.view
    else answer.IsMismatch

/-- Calls are answered one for one, each by what stands at its place in a script. -/
structure AnsweredInOrder (calls : List Call) (answers : List Answer)
    (expected : List Expectation) : Prop where
  length : answers.length = calls.length
  answered (place : Nat) (call : Call) (answer : Answer) (made : calls[place]? = some call)
    (given : answers[place]? = some answer) : call.AnsweredBy answer expected[place]?

/-- An answer that is no mismatch shows the command that was expected. -/
theorem AnsweredBy.exists_eq {call : Call} {answer : Answer} {expected? : Option Expectation}
    (answered : call.AnsweredBy answer expected?) (agreed : ¬ answer.IsMismatch) :
    ∃ next, expected? = some next ∧ next.command = call.command := by
  cases expected? with
  | none => exact (agreed answered).elim
  | some next =>
    rw [AnsweredBy] at answered
    split at answered
    next same => exact ⟨next, rfl, (Command.eq_iff _ _).mpr same⟩
    next => exact (agreed answered).elim

/-- A call uses up the first expectation, is written down, and is answered by that expectation. -/
theorem make_scripted (call : Call) (script : Script) (files : FileSystem) :
    (call.make .scripted script files).outside =
        ⟨script.expected.tail, script.invocations ++ [call.command.text]⟩ ∧
      (call.make .scripted script files).files = files ∧
      call.AnsweredBy (call.make .scripted script files).result script.expected.head? := by
  have outside : (call.make .scripted script files).outside = (script.answer call.command).2 := by
    cases call <;> rfl
  have untouched : (call.make .scripted script files).files = files := by
    cases call <;> rfl
  have result : (call.make .scripted script files).result =
      (script.answer call.command).1.map call.view := by
    cases call with
    | run command => rfl
    | runAttached command =>
      change ((script.answer command).1.map Output.status).map Sum.inr =
        (script.answer command).1.map fun output => Sum.inr output.status
      cases (script.answer command).1 <;> rfl
  rw [outside, result]
  obtain ⟨expected, invocations⟩ := script
  cases expected with
  | nil => exact ⟨rfl, untouched, _, rfl⟩
  | cons next rest =>
    refine ⟨rfl, untouched, ?_⟩
    simp only [Script.answer, AnsweredBy, List.head?_cons, ← Command.eq_iff]
    split
    next same => rfl
    next different => exact ⟨_, rfl⟩

/-- Calls use up the expectations one by one, are written down in order, and are answered in the
order of the script. -/
theorem makeAll_scripted (calls : List Call) (script : Script) (files : FileSystem) :
    (makeAll .scripted calls script files).outside =
        ⟨script.expected.drop calls.length,
          script.invocations ++ calls.map fun call => call.command.text⟩ ∧
      (makeAll .scripted calls script files).files = files ∧
      AnsweredInOrder calls (makeAll .scripted calls script files).answers script.expected := by
  induction calls generalizing script with
  | nil => exact ⟨by simp [makeAll], rfl, rfl, by simp⟩
  | cons first later ih =>
    obtain ⟨outside, untouched, answered⟩ := first.make_scripted script files
    obtain ⟨outsideLater, untouchedLater, lengthLater, answeredLater⟩ :=
      ih ⟨script.expected.tail, script.invocations ++ [first.command.text]⟩
    rw [makeAll, outside, untouched]
    refine ⟨?_, untouchedLater, ?_, ?_⟩
    · rw [outsideLater]
      simp
    · rw [List.length_cons, List.length_cons, lengthLater]
    -- The first call meets the first expectation, and the later ones meet what is left.
    · rintro (_ | place) call answer here there
      · rw [List.getElem?_cons_zero, Option.some.injEq] at here there
        rw [← here, ← there, ← List.head?_eq_getElem?]
        exact answered
      · rw [List.getElem?_cons_succ] at here there
        have next := answeredLater place call answer here there
        rwa [List.getElem?_tail] at next

/-- Where no answer is a mismatch and nothing is left of the script, the calls are the scripted
ones. -/
theorem AnsweredInOrder.eq_of_agreed {calls : List Call} {answers : List Answer}
    {expected : List Expectation} (inOrder : AnsweredInOrder calls answers expected)
    (agreed : ∀ answer ∈ answers, ¬ answer.IsMismatch)
    (finished : expected.length ≤ calls.length) :
    calls.map Call.command = expected.map Expectation.command := by
  have meets (place : Nat) (inside : place < calls.length) :
      ∃ next, expected[place]? = some next ∧ next.command = calls[place].command := by
    have given : place < answers.length := inOrder.length ▸ inside
    have answered := inOrder.answered place _ _ (List.getElem?_eq_getElem inside)
      (List.getElem?_eq_getElem given)
    exact answered.exists_eq (agreed _ (List.getElem_mem given))
  apply List.ext_getElem?
  intro place
  by_cases inside : place < calls.length
  · obtain ⟨next, there, same⟩ := meets place inside
    rw [List.getElem?_map, List.getElem?_map, List.getElem?_eq_getElem inside, there,
      Option.map_some, Option.map_some, same]
  -- Behind the last call there is nothing left of the script either.
  · have beyond : expected.length ≤ place := by omega
    rw [List.getElem?_map, List.getElem?_map, List.getElem?_eq_none beyond,
      List.getElem?_eq_none (Nat.le_of_not_lt inside)]
    rfl

end Call

/-- A script is replayed call by call: all calls are written down in order, each uses up the
expectation at its place and gets the result there just if program and arguments are the same, and
once every call has agreed and nothing is left, the calls are the scripted ones. -/
theorem Script.replays_calls (expected : List Expectation) (calls : List Call)
    (files : FileSystem) :
    let played := Call.makeAll .scripted calls (ofList expected) files
    played.outside.invocations = calls.map (fun call => call.command.text) ∧
    played.outside.expected = expected.drop calls.length ∧
    played.files = files ∧
    Call.AnsweredInOrder calls played.answers expected ∧
    ((∀ answer ∈ played.answers, ¬ answer.IsMismatch) → played.outside.isFinished →
      calls.map Call.command = expected.map Expectation.command) := by
  intro played
  obtain ⟨outside, untouched, inOrder⟩ := Call.makeAll_scripted calls (ofList expected) files
  change played.outside = _ at outside
  rw [outside]
  refine ⟨List.nil_append _, rfl, untouched, inOrder, fun agreed finished => ?_⟩
  have nothingLeft : expected.drop calls.length = [] := List.isEmpty_iff.mp finished
  exact inOrder.eq_of_agreed agreed (List.drop_eq_nil_iff.mp nothingLeft)

/-- A repository that is described and then fails to build. -/
def describedAndBroken : List Expectation :=
  [⟨⟨"git", ["describe", "--tags"]⟩, .ok ⟨.exited 0, Utf8.encode "v1.0\n", []⟩⟩,
    ⟨⟨"cross", ["build"]⟩, .ok ⟨.exited 101, [], Utf8.encode "error\n"⟩⟩]

/-- The calls of a release up to there. -/
def callsUpToBuild : List Call :=
  [.run ⟨"git", ["describe", "--tags"]⟩, .runAttached ⟨"cross", ["build"]⟩]

theorem Script.replays_calls_up_to_build :
    let played := Call.makeAll .scripted callsUpToBuild (ofList describedAndBroken) ⟨.folder [], []⟩
    (∀ answer ∈ played.answers, ¬ answer.IsMismatch) ∧ played.outside.isFinished ∧
    played.outside.invocations = ["git describe --tags", "cross build"] ∧
    callsUpToBuild.map Call.command = describedAndBroken.map Expectation.command := by
  intro played
  have answers : played.answers =
      [.ok (.inl ⟨.exited 0, Utf8.encode "v1.0\n", []⟩), .ok (.inr (.exited 101))] := rfl
  have agreed : ∀ answer ∈ played.answers, ¬ answer.IsMismatch := by
    simp [answers, Answer.IsMismatch]
  have finished : played.outside.isFinished := rfl
  obtain ⟨written, -, -, -, same⟩ :=
    replays_calls describedAndBroken callsUpToBuild ⟨.folder [], []⟩
  exact ⟨agreed, finished, written, same agreed finished⟩

/-- Two commands with the same text and different arguments do not agree. -/
example :
    (Call.makeAll .scripted [.run ⟨"git", ["describe --tags"]⟩]
      (Script.ofList describedAndBroken) ⟨.folder [], []⟩).answers =
    [.error (.scriptMismatch "expected `git describe --tags`, got `git describe --tags`")] := by
  rfl

end ReleasePacker
