import SessionProbe.Probe

set_option autoImplicit false

/-!
Rehearsals: probes against an object with prepared answers, one after the other. All of them print
to one sink.
-/

namespace SessionProbe

open Bus (BusError Callee Logged)

/-- A method call as an object sees it. -/
structure Call where
  method : String
  argument : String
deriving Repr, DecidableEq

/-- An object with prepared answers, and the calls made. The last answer stays, and without any
answer all replies are empty. -/
structure PreparedObject where
  answers : List (Except BusError Reply)
  calls : List Call := []

def PreparedObject.next (object : PreparedObject) : Except BusError Reply :=
  object.answers.headD (.ok {})

def PreparedObject.after (object : PreparedObject) (call : Call) : PreparedObject :=
  let answers :=
    match object.answers with
    | _ :: next :: rest => next :: rest
    | answers => answers
  { answers, calls := object.calls ++ [call] }

def PreparedObject.callee : Callee PreparedObject := fun method argument => do
  let logged ← get
  set { logged with state := logged.state.after { method, argument } }
  MonadExcept.ofExcept logged.state.next

structure Rehearsal where
  object : PreparedObject
  sink : Sink

namespace Rehearsal

inductive Step
  | invoke (probe : Probe)
  | print (probe : Probe)
deriving Repr, DecidableEq

def Step.probe : Step → Probe
  | .invoke probe => probe
  | .print probe => probe

inductive Outcome
  | replied (reply : Reply)
  /-- The call failed, and nothing was to be printed. -/
  | failed (error : BusError)
  | printed
  /-- The call or the printing failed. -/
  | stopped (failure : Failure)
deriving Repr, DecidableEq

/-- What became of a step, with the calls and the journal of that step alone and the sink after
it. -/
structure StepReport where
  outcome : Outcome
  calls : List Call
  journal : List Journal.Entry
  sink : Sink

/-- Report a step and go on from where it ended. -/
def report (rehearsal : Rehearsal) (outcome : Outcome) (logged : Logged PreparedObject)
    (sink : Sink) : StepReport × Rehearsal :=
  ({ outcome
     calls := logged.state.calls.drop rehearsal.object.calls.length
     journal := logged.journal
     sink },
    { object := logged.state, sink })

def step (rehearsal : Rehearsal) : Step → StepReport × Rehearsal
  | .invoke probe =>
    match probe.invoke PreparedObject.callee { state := rehearsal.object } with
    | .ok reply logged => rehearsal.report (.replied reply) logged rehearsal.sink
    | .error error logged => rehearsal.report (.failed error) logged rehearsal.sink
  | .print probe =>
    match probe.print PreparedObject.callee ({ state := rehearsal.object }, rehearsal.sink) with
    | .ok () (logged, sink) => rehearsal.report .printed logged sink
    | .error failure (logged, sink) => rehearsal.report (.stopped failure) logged sink

def steps (rehearsal : Rehearsal) : List Step → List StepReport × Rehearsal
  | [] => ([], rehearsal)
  | step :: rest =>
    let (report, next) := rehearsal.step step
    let (reports, last) := next.steps rest
    (report :: reports, last)

end Rehearsal

end SessionProbe
