import SessionProbe.Bus.RemoteObject

set_option autoImplicit false

/-!
A session: steps on one connection. Objects that were found stay at hand under their number, from
zero on.
-/

namespace SessionProbe.Bus

inductive Step
  | find (service path : String) (interface : Option String)
  | call (object : Nat) (method argument : String)
  | owner (service : String)
  | start (service : String)
deriving Repr, DecidableEq

inductive Outcome
  | found (number : Nat) (object : RemoteObject)
  | replied (reply : Reply)
  | owner (name : Option String)
  | started
  | failed (error : BusError)
  | noObject
deriving Repr, DecidableEq

/-- A connection with the objects found on it. -/
structure Session where
  objects : List RemoteObject := []
  line : Logged Line

/-- Run a task on the line, which goes on from where the task left it. -/
def Session.run {α : Type} (session : Session) (task : Task Line α) : Except BusError α × Session :=
  match task session.line with
  | .ok value line => (.ok value, { session with line })
  | .error error line => (.error error, { session with line })

def Session.step (session : Session) : Step → Outcome × Session
  | .find service path interface =>
    match session.run (RemoteObject.find service path interface) with
    | (.ok object, session) =>
      (.found session.objects.length object,
        { session with objects := session.objects ++ [object] })
    | (.error error, session) => (.failed error, session)
  | .call number method argument =>
    match session.objects[number]? with
    | none => (.noObject, session)
    | some object =>
      match session.run (object.call method argument) with
      | (.ok reply, session) => (.replied reply, session)
      | (.error error, session) => (.failed error, session)
  | .owner service =>
    match session.run (Daemon.nameOwner service) with
    | (.ok name, session) => (.owner name, session)
    | (.error error, session) => (.failed error, session)
  | .start service =>
    match session.run (Daemon.startService service) with
    | (.ok (), session) => (.started, session)
    | (.error error, session) => (.failed error, session)

/-- What became of a step, with the requests and the journal of that step alone. -/
structure StepReport where
  outcome : Outcome
  requests : List Request
  journal : List Journal.Entry

def Session.steps (session : Session) : List Step → List StepReport × Session
  | [] => ([], session)
  | step :: rest =>
    let (outcome, next) := session.step step
    let report : StepReport :=
      { outcome
        requests := next.line.state.requests.drop session.line.state.requests.length
        journal := next.line.journal.drop session.line.journal.length }
    let (reports, last) := next.steps rest
    (report :: reports, last)

end SessionProbe.Bus
