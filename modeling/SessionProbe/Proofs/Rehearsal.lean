import SessionProbe.Proofs.Probe.Printing
import SessionProbe.Proofs.Trail

set_option autoImplicit false

/-!
Whole rehearsals: any number of probes that share one sink. `Stands` is the invariant from step to
step. It tells the sink by all octets that were due to it and by the lines that were completed;
`output_law` reads it off for every step of a rehearsal from its start on.
-/

namespace SessionProbe.Rehearsal

open Bus (BusError)
open Sink (kept Fits)

/-! ### What a rehearsal owes -/

/-- All octets that are due to the sink after steps. -/
def due (object : PreparedObject) (steps : List Step) : List UInt8 :=
  steps.zipIdx.flatMap fun (step, number) => step.line (object.answer number)

/-- The step of the number writes its line whole. -/
def completes (start : Rehearsal) (steps : List Step) (number : Nat) : Bool :=
  steps[number]?.any fun step =>
    step.completes start.sink.capacity (due start.object (steps.take (number + 1)))
      (start.object.answer number)

/-- The sink of a start after some steps: it holds the first octets of all that is due, and was
flushed for every line that it took whole. -/
def sinkAfter (start : Rehearsal) (steps : List Step) (number : Nat) : Sink :=
  { start.sink with
    written := kept start.sink.capacity (due start.object (steps.take number))
    flushes := (List.range number).countP (completes start steps) }

def fresh (answers : List (Except BusError Reply)) (capacity : Option Nat) (full : FullSink)
    (flushFails : Bool) : Rehearsal where
  object := { answers }
  sink := { capacity, full, flushFails }

section Owing

variable {start : Rehearsal} {steps : List Step} {number : Nat} {step : Step}

theorem due_take_succ (object : PreparedObject) (taken : steps[number]? = some step) :
    due object (steps.take (number + 1)) =
      due object (steps.take number) ++ step.line (object.answer number) := by
  obtain ⟨inside, _⟩ := List.getElem?_eq_some_iff.mp taken
  have length : (steps.take number).length = number := by
    rw [List.length_take]
    omega
  rw [List.take_add_one, taken, due, List.zipIdx_append, List.flatMap_append, length]
  simp [due]

theorem countP_completes_succ (taken : steps[number]? = some step) :
    (List.range (number + 1)).countP (completes start steps) =
      (List.range number).countP (completes start steps) +
        (step.completes start.sink.capacity (due start.object (steps.take (number + 1)))
          (start.object.answer number)).toNat := by
  rw [List.range_succ, List.countP_append, List.countP_singleton, completes, taken, Option.any_some]
  cases step.completes start.sink.capacity (due start.object (steps.take (number + 1)))
    (start.object.answer number) <;> rfl

end Owing

/-! ### The invariant -/

/-- Where a rehearsal stands after some of the steps. -/
structure Stands (start : Rehearsal) (steps : List Step) (number : Nat) (now : Rehearsal) :
    Prop where
  answers : ∀ later, now.object.answer later = start.object.answer (number + later)
  sink : now.sink = start.sinkAfter steps number

theorem fresh_stands (answers : List (Except BusError Reply)) (capacity : Option Nat)
    (full : FullSink) (flushFails : Bool) (steps : List Step) :
    (fresh answers capacity full flushFails).Stands steps 0
      (fresh answers capacity full flushFails) := by
  constructor
  case answers =>
    intro later
    rw [Nat.zero_add]
  case sink =>
    simp [fresh, sinkAfter, due, kept]

variable {start now : Rehearsal} {steps : List Step} {number : Nat} {step : Step}

/-- A step from where a rehearsal stands goes by the answer of its number. -/
theorem Stands.steps_next (stands : start.Stands steps number now)
    (taken : steps[number]? = some step) :
    now.Steps step (start.object.answer number)
      (due start.object (steps.take (number + 1))) := by
  have holds : now.sink.written =
      kept now.sink.capacity (due start.object (steps.take number)) := by
    rw [stands.sink]
    rfl
  have law := step_steps holds step
  rw [PreparedObject.next_eq_answer, stands.answers, Nat.add_zero,
    ← due_take_succ _ taken] at law
  exact law

theorem Stands.sink_next (stands : start.Stands steps number now)
    (taken : steps[number]? = some step) :
    (now.step step).1.sink = start.sinkAfter steps (number + 1) := by
  rw [(stands.steps_next taken).sink, stands.sink]
  simp only [sinkAfter, countP_completes_succ taken]

theorem Stands.next (stands : start.Stands steps number now)
    (taken : steps[number]? = some step) :
    start.Stands steps (number + 1) (now.step step).2 := by
  have leaves := (stands.steps_next taken).leaves
  constructor
  case answers =>
    intro later
    rw [leaves, PreparedObject.answer_after, stands.answers]
    congr 1
    omega
  case sink =>
    rw [leaves]
    exact stands.sink_next taken

/-! ### Runs -/

def reports (rehearsal : Rehearsal) (steps : List Step) : List StepReport :=
  (rehearsal.steps steps).1

def after (rehearsal : Rehearsal) (steps : List Step) : Rehearsal :=
  (rehearsal.steps steps).2

theorem reports_eq_trail (rehearsal : Rehearsal) (steps : List Step) :
    rehearsal.reports steps = Trail.reports Rehearsal.step rehearsal steps := by
  induction steps generalizing rehearsal with
  | nil => rfl
  | cons step steps ih =>
      rw [Trail.reports, ← ih]
      rfl

theorem after_eq_trail (rehearsal : Rehearsal) (steps : List Step) :
    rehearsal.after steps = Trail.after Rehearsal.step rehearsal steps := by
  induction steps generalizing rehearsal with
  | nil => rfl
  | cons step steps ih => exact ih (rehearsal.step step).2

theorem stands_after (begins : start.Stands steps 0 start) (inside : number ≤ steps.length) :
    start.Stands steps number (start.after (steps.take number)) := by
  induction number with
  | zero => exact begins
  | succ number ih =>
      have taken : steps[number]? = some steps[number] := List.getElem?_eq_getElem inside
      have stands := ih (Nat.le_of_succ_le inside)
      rw [after_eq_trail] at stands ⊢
      rw [Trail.after_take_succ _ _ taken]
      exact stands.next taken

/-! ### The law of the output -/

/-- The step does not print: it only calls, or its call fails. -/
def Step.Silent (step : Step) (answer : Except BusError Reply) : Prop :=
  (∃ probe, step = .invoke probe) ∨ ∃ error, answer = .error error

theorem Step.Silent.line {answer : Except BusError Reply} (silent : step.Silent answer) :
    step.line answer = [] := by
  rcases silent with ⟨probe, rfl⟩ | ⟨error, rfl⟩
  · rfl
  · cases step <;> rfl

theorem Step.Silent.completes {answer : Except BusError Reply} (silent : step.Silent answer)
    (capacity : Option Nat) (due : List UInt8) : step.completes capacity due answer = false := by
  rcases silent with ⟨probe, rfl⟩ | ⟨error, rfl⟩
  · rfl
  · cases step <;> rfl

theorem sinkAfter_of_silent (taken : steps[number]? = some step)
    (silent : step.Silent (start.object.answer number)) :
    start.sinkAfter steps (number + 1) = start.sinkAfter steps number := by
  simp only [sinkAfter, countP_completes_succ taken, silent.completes, due_take_succ _ taken,
    silent.line]
  rw [List.append_nil]
  rfl

/-- What a rehearsal keeps to at the step of a number. -/
structure StepLaw (start : Rehearsal) (steps : List Step) (number : Nat) (step : Step)
    (report : StepReport) : Prop where
  calls : report.calls = [step.call]
  written : report.sink.written =
    kept start.sink.capacity (due start.object (steps.take (number + 1)))
  flushes : report.sink.flushes = (List.range (number + 1)).countP (completes start steps)
  ends : step.Ends start.sink (due start.object (steps.take (number + 1)))
    (start.object.answer number) report.outcome
  printed : ∀ probe, step = .print probe →
    (report.outcome = .printed ↔
      (∃ reply, start.object.answer number = .ok reply) ∧
        Fits start.sink.capacity (due start.object (steps.take (number + 1))) ∧
        start.sink.flushFails = false)
  silent : step.Silent (start.object.answer number) →
    report.sink = (start.after (steps.take number)).sink

theorem Stands.stepLaw (stands : start.Stands steps number (start.after (steps.take number)))
    (taken : steps[number]? = some step) :
    start.StepLaw steps number step ((start.after (steps.take number)).step step).1 := by
  have next := stands.steps_next taken
  have sink := stands.sink_next taken
  have ends := next.ends
  rw [stands.sink] at ends
  constructor
  case calls => exact next.calls
  case written =>
    rw [sink]
    rfl
  case flushes =>
    rw [sink]
    rfl
  case ends => exact ends.of_refilled
  case printed =>
    intro probe printing
    subst printing
    exact ends.of_refilled.printed_iff
  case silent =>
    intro silent
    rw [sink, stands.sink, sinkAfter_of_silent taken silent]

/-- Every step is reported and keeps to its law. -/
structure Law (start : Rehearsal) (steps : List Step) : Prop where
  reported : (start.reports steps).length = steps.length
  keeps : ∀ {number : Nat} {step : Step}, steps[number]? = some step →
    ∃ report, (start.reports steps)[number]? = some report ∧
      start.StepLaw steps number step report

/-- Whatever the object answers and whatever the sink refuses, a rehearsal keeps to the law from
its first step on. -/
theorem output_law (answers : List (Except BusError Reply)) (capacity : Option Nat)
    (full : FullSink) (flushFails : Bool) (steps : List Step) :
    (fresh answers capacity full flushFails).Law steps := by
  have begins := fresh_stands answers capacity full flushFails steps
  constructor
  case reported =>
    rw [reports_eq_trail]
    exact Trail.length_reports _ _ _
  case keeps =>
    intro number step taken
    obtain ⟨inside, _⟩ := List.getElem?_eq_some_iff.mp taken
    have stands := stands_after begins (Nat.le_of_lt inside)
    refine ⟨_, ?_, stands.stepLaw taken⟩
    rw [reports_eq_trail, after_eq_trail, Trail.getElem?_reports, taken]
    rfl

/-- The second line is cut within its first character, and the third finds no room. -/
example :
    let start := fresh [.ok (.ofText "ok"), .ok (.ofText "über")] (some 4) .takesNothing false
    (start.after [.print Probe.cbsim, .print Probe.matt1, .print Probe.cbsim]).sink =
      { start.sink with written := [0x6F, 0x6B, 0x0A, 0xC3], flushes := 1 } := by
  decide +kernel

end SessionProbe.Rehearsal
