import SessionProbe.Proofs.Probe.Conversation
import SessionProbe.Rehearsal

set_option autoImplicit false

/-!
One step of a rehearsal. `Step.Ends` lists how a step can end, by the answer to its call and by
whether all that was due to the sink still fits. `step_law` says that every step makes its one
call, ends one of these ways, and leaves in the sink what is kept of all that was due.
-/

namespace SessionProbe

open Bus (BusError Logged Yields yields_ofExcept bind_apply)
open Sink (kept Fits)

/-- The octets of a reply on a line of its own. -/
def Reply.line (reply : Reply) : List UInt8 :=
  Text.Utf8.encode (reply.display ++ "\n")

theorem Reply.line_ne_nil (reply : Reply) : reply.line ≠ [] := by
  intro empty
  rw [Reply.line, Text.Utf8.encode_append, List.append_eq_nil_iff] at empty
  exact absurd empty.2 (by decide)

/-! ### Printing a line -/

section Emit

variable {σ : Type} {sink : Sink} {due : List UInt8} {reply : Reply}

theorem Probe.emit_of_cut (holds : sink.written = kept sink.capacity due)
    (cut : ¬ Fits sink.capacity (due ++ reply.line)) (logged : Logged σ) :
    Probe.emit reply (logged, sink) =
      .error { attempt := "failed to write reply", cause := .output sink.full.message }
        (logged, { sink with written := kept sink.capacity (due ++ reply.line) }) := by
  have wrote := Sink.write_of_kept holds reply.line_ne_nil
  rw [if_neg cut, Reply.line] at wrote
  unfold Probe.emit
  rw [bind_apply]
  simp only [Run.output, wrote]
  rfl

theorem Probe.emit_of_fits (holds : sink.written = kept sink.capacity due)
    (fits : Fits sink.capacity (due ++ reply.line)) (logged : Logged σ) :
    Probe.emit reply (logged, sink) =
      Run.output Sink.flush
        (logged, { sink with written := kept sink.capacity (due ++ reply.line) }) := by
  have wrote := Sink.write_of_kept holds reply.line_ne_nil
  rw [if_pos fits, Reply.line] at wrote
  unfold Probe.emit
  rw [bind_apply]
  simp only [Run.output, wrote]
  rfl

theorem Probe.emit_of_stuck (holds : sink.written = kept sink.capacity due)
    (fits : Fits sink.capacity (due ++ reply.line)) (stuck : sink.flushFails = true)
    (logged : Logged σ) :
    Probe.emit reply (logged, sink) =
      .error { attempt := "failed to write reply", cause := .output "flush failed" }
        (logged, { sink with
          written := kept sink.capacity (due ++ reply.line)
          flushes := sink.flushes + 1 }) := by
  rw [Probe.emit_of_fits holds fits]
  simp only [Run.output, Sink.flush, stuck]
  rfl

theorem Probe.emit_of_free (holds : sink.written = kept sink.capacity due)
    (fits : Fits sink.capacity (due ++ reply.line)) (free : sink.flushFails = false)
    (logged : Logged σ) :
    Probe.emit reply (logged, sink) =
      .ok () (logged, { sink with
        written := kept sink.capacity (due ++ reply.line)
        flushes := sink.flushes + 1 }) := by
  rw [Probe.emit_of_fits holds fits]
  simp only [Run.output, Sink.flush, free]
  rfl

end Emit

/-! ### Calling a prepared object -/

namespace PreparedObject

/-- The answer to a call, counted from the next one on. -/
def answer (object : PreparedObject) (number : Nat) : Except BusError Reply :=
  (object.answers[min number (object.answers.length - 1)]?).getD (.ok {})

variable (object : PreparedObject)

theorem next_eq_answer : object.next = object.answer 0 := by
  unfold next answer
  cases object.answers <;> simp

theorem answer_after (call : Call) (number : Nat) :
    (object.after call).answer number = object.answer (number + 1) := by
  unfold after answer
  split
  · rename_i answers split
    rw [split]
    simp [Nat.succ_min_succ]
  · rename_i answers short
    cases prepared : object.answers with
    | nil => simp
    | cons only rest =>
        cases rest with
        | nil => simp
        | cons next more => exact absurd prepared (short _ _ _)

theorem callee_yields (method argument : String) :
    Yields (callee method argument) object object.next (object.after { method, argument }) := by
  exact yields_ofExcept object.next (object.after { method, argument })

end PreparedObject

/-! ### One step -/

namespace Rehearsal

def Step.call (step : Step) : Call :=
  { method := step.probe.method, argument := step.probe.argument }

/-- The octets due to the sink after a step whose call had an answer. -/
def Step.line : Step → Except BusError Reply → List UInt8
  | .print _, .ok reply => reply.line
  | _, _ => []

/-- The step writes its line whole, if all that is due with it fits. -/
def Step.completes (capacity : Option Nat) (due : List UInt8) :
    Step → Except BusError Reply → Bool
  | .print _, .ok _ => decide (Fits capacity due)
  | _, _ => false

/-- How a step ends by the answer to its call, when some octets are due to the sink with it. -/
inductive Step.Ends (sink : Sink) (due : List UInt8) :
    Step → Except BusError Reply → Outcome → Prop
  | replied {probe : Probe} {reply : Reply} :
      Ends sink due (.invoke probe) (.ok reply) (.replied reply)
  | failed {probe : Probe} {error : BusError} :
      Ends sink due (.invoke probe) (.error error) (.failed error)
  | unanswered {probe : Probe} {error : BusError} :
      Ends sink due (.print probe) (.error error)
        (.stopped { attempt := "probe " ++ probe.name ++ " failed", cause := .bus error })
  | cut {probe : Probe} {reply : Reply} (full : ¬ Fits sink.capacity due) :
      Ends sink due (.print probe) (.ok reply)
        (.stopped { attempt := "failed to write reply", cause := .output sink.full.message })
  | unflushed {probe : Probe} {reply : Reply} (fits : Fits sink.capacity due)
      (stuck : sink.flushFails = true) :
      Ends sink due (.print probe) (.ok reply)
        (.stopped { attempt := "failed to write reply", cause := .output "flush failed" })
  | printed {probe : Probe} {reply : Reply} (fits : Fits sink.capacity due)
      (free : sink.flushFails = false) :
      Ends sink due (.print probe) (.ok reply) .printed

section Ends

variable {sink : Sink} {due : List UInt8} {answer : Except BusError Reply} {outcome : Outcome}

theorem Step.Ends.printed_iff {probe : Probe}
    (ends : (Step.print probe).Ends sink due answer outcome) :
    outcome = .printed ↔
      (∃ reply, answer = .ok reply) ∧ Fits sink.capacity due ∧ sink.flushFails = false := by
  cases ends with
  | unanswered => simp
  | cut full => simp [full]
  | unflushed fits stuck => simp [stuck]
  | printed fits free => simp [fits, free]

/-- What the sink holds plays no part, once it is known what is due. -/
theorem Step.Ends.of_refilled {step : Step} {written : List UInt8} {flushes : Nat}
    (ends : step.Ends { sink with written, flushes } due answer outcome) :
    step.Ends sink due answer outcome := by
  cases ends with
  | replied => exact .replied
  | failed => exact .failed
  | unanswered => exact .unanswered
  | cut full => exact .cut full
  | unflushed fits stuck => exact .unflushed fits stuck
  | printed fits free => exact .printed fits free

end Ends

/-- A step that makes its one call, ends by the answer to it, and leaves in the sink what is kept
of all that is due with it. -/
structure Steps (rehearsal : Rehearsal) (step : Step) (answer : Except BusError Reply)
    (due : List UInt8) : Prop where
  calls : (rehearsal.step step).1.calls = [step.call]
  ends : step.Ends rehearsal.sink due answer (rehearsal.step step).1.outcome
  sink : (rehearsal.step step).1.sink =
    { rehearsal.sink with
      written := kept rehearsal.sink.capacity due
      flushes := rehearsal.sink.flushes +
        (step.completes rehearsal.sink.capacity due answer).toNat }
  leaves : (rehearsal.step step).2 =
    { object := rehearsal.object.after step.call, sink := (rehearsal.step step).1.sink }

variable {rehearsal : Rehearsal} {due : List UInt8}

private theorem steps_of_report {step : Step} {answer : Except BusError Reply}
    {outcome : Outcome} {journal : List Journal.Entry} {sink : Sink}
    (stepped : rehearsal.step step =
      rehearsal.report outcome { state := rehearsal.object.after step.call, journal } sink)
    (ends : step.Ends rehearsal.sink due answer outcome)
    (left : sink =
      { rehearsal.sink with
        written := kept rehearsal.sink.capacity due
        flushes := rehearsal.sink.flushes +
          (step.completes rehearsal.sink.capacity due answer).toNat }) :
    rehearsal.Steps step answer due := by
  constructor
  case calls =>
    rw [stepped]
    simp [report, PreparedObject.after]
  case ends =>
    rw [stepped]
    exact ends
  case sink =>
    rw [stepped]
    exact left
  case leaves =>
    rw [stepped]
    rfl

section Unfolding

variable {probe : Probe} {logged : Logged PreparedObject} {sink : Sink}

theorem step_of_replied {reply : Reply}
    (ran : probe.invoke PreparedObject.callee { state := rehearsal.object } = .ok reply logged) :
    rehearsal.step (.invoke probe) =
      rehearsal.report (.replied reply) logged rehearsal.sink := by
  simp only [step, ran]

theorem step_of_failed {error : BusError}
    (ran : probe.invoke PreparedObject.callee { state := rehearsal.object } =
      .error error logged) :
    rehearsal.step (.invoke probe) = rehearsal.report (.failed error) logged rehearsal.sink := by
  simp only [step, ran]

theorem step_of_printed
    (ran : probe.print PreparedObject.callee ({ state := rehearsal.object }, rehearsal.sink) =
      .ok () (logged, sink)) :
    rehearsal.step (.print probe) = rehearsal.report .printed logged sink := by
  simp only [step, ran]

theorem step_of_stopped {failure : Failure}
    (ran : probe.print PreparedObject.callee ({ state := rehearsal.object }, rehearsal.sink) =
      .error failure (logged, sink)) :
    rehearsal.step (.print probe) = rehearsal.report (.stopped failure) logged sink := by
  simp only [step, ran]

end Unfolding

/-- Nothing is written or flushed, and what the sink holds is what is due before and after. -/
private theorem sink_unmoved (holds : rehearsal.sink.written = kept rehearsal.sink.capacity due) :
    rehearsal.sink =
      { rehearsal.sink with
        written := kept rehearsal.sink.capacity (due ++ [])
        flushes := rehearsal.sink.flushes + false.toNat } := by
  rw [List.append_nil, ← holds]
  rfl

private theorem invoke_steps (holds : rehearsal.sink.written = kept rehearsal.sink.capacity due)
    (probe : Probe) :
    rehearsal.Steps (.invoke probe) rehearsal.object.next
      (due ++ (Step.invoke probe).line rehearsal.object.next) := by
  obtain ⟨entries, ran⟩ :=
    Probe.invoke_yields (rehearsal.object.callee_yields probe.method probe.argument) []
  cases answered : rehearsal.object.next with
  | ok reply =>
      rw [answered] at ran
      exact steps_of_report (step_of_replied ran) .replied (sink_unmoved holds)
  | error error =>
      rw [answered] at ran
      exact steps_of_report (step_of_failed ran) .failed (sink_unmoved holds)

private theorem print_steps (holds : rehearsal.sink.written = kept rehearsal.sink.capacity due)
    (probe : Probe) :
    rehearsal.Steps (.print probe) rehearsal.object.next
      (due ++ (Step.print probe).line rehearsal.object.next) := by
  obtain ⟨entries, ran⟩ := probe.emitted_yields
    (Probe.invoke_yields (rehearsal.object.callee_yields probe.method probe.argument)) []
    rehearsal.sink
  rw [← Probe.print_eq] at ran
  cases answered : rehearsal.object.next with
  | error error =>
      rw [answered] at ran
      exact steps_of_report (step_of_stopped ran) .unanswered (sink_unmoved holds)
  | ok reply =>
      rw [answered] at ran
      dsimp only [Probe.conclude] at ran
      by_cases fits : Fits rehearsal.sink.capacity (due ++ reply.line)
      · have completes : (Step.print probe).completes rehearsal.sink.capacity (due ++ reply.line)
            (.ok reply) = true := decide_eq_true fits
        cases flushing : rehearsal.sink.flushFails with
        | true =>
            rw [Probe.emit_of_stuck holds fits flushing] at ran
            refine steps_of_report (step_of_stopped ran) (.unflushed fits flushing) ?_
            rw [Step.line, completes]
            rfl
        | false =>
            rw [Probe.emit_of_free holds fits flushing] at ran
            refine steps_of_report (step_of_printed ran) (.printed fits flushing) ?_
            rw [Step.line, completes]
            rfl
      · have completes : (Step.print probe).completes rehearsal.sink.capacity (due ++ reply.line)
            (.ok reply) = false := decide_eq_false fits
        rw [Probe.emit_of_cut holds fits] at ran
        refine steps_of_report (step_of_stopped ran) (.cut fits) ?_
        rw [Step.line, completes]
        rfl

/-- Every step goes by the law if the sink holds what is kept of all that was due before. -/
theorem step_steps (holds : rehearsal.sink.written = kept rehearsal.sink.capacity due)
    (step : Step) :
    rehearsal.Steps step rehearsal.object.next (due ++ step.line rehearsal.object.next) := by
  cases step with
  | invoke probe => exact invoke_steps holds probe
  | print probe => exact print_steps holds probe

end Rehearsal

end SessionProbe
