import SessionProbe.Proofs.Bus.Exchange
import SessionProbe.Proofs.Bus.RemoteObject

set_option autoImplicit false

/-!
The steps of a session. `Step.Goes` lists how a step can go: the exchanges it has with the bus, and
what becomes of it. `step_steps` says that every step goes one of these ways, with the answers that
come next on the line.
-/

namespace SessionProbe.Bus

open Daemon (ownerRequest startRequest)

/-! ### The ways of a step -/

def Outcome.ofResult {α : Type} (done : α → Outcome) : Except BusError α → Outcome
  | .ok value => done value
  | .error error => .failed error

def Outcome.object? : Outcome → Option RemoteObject
  | .found _ object => some object
  | _ => none

/-- How a step goes when some objects are at hand: its exchanges, and what becomes of it. -/
inductive Step.Goes (objects : List RemoteObject) : Step → List Exchange → Outcome → Prop
  | misnamed {service path : String} {interface : Option String} {error : BusError}
      (rejected : validateAll (targetNames service path interface) = .error error) :
      Goes objects (.find service path interface) [] (.failed error)
  | searched {service path : String} {interface : Option String} {exchanges : List Exchange}
      {result : Except BusError String}
      (accepted : validateAll (targetNames service path interface) = .ok ())
      (search : Resolves (.ofExchanges exchanges) service (exchanges.map Exchange.request)
        result) :
      Goes objects (.find service path interface) exchanges
        (.ofResult (fun destination =>
          .found objects.length { service, destination, path, interface }) result)
  | noObject {number : Nat} {method argument : String} (missing : objects[number]? = none) :
      Goes objects (.call number method argument) [] .noObject
  | misnamedMethod {number : Nat} {method argument : String} {object : RemoteObject}
      {error : BusError} (present : objects[number]? = some object)
      (rejected : validate .method method = .error error) :
      Goes objects (.call number method argument) [] (.failed error)
  | unsentCall {number : Nat} {method argument : String} {object : RemoteObject}
      {problem : LinkError} (present : objects[number]? = some object)
      (accepted : validate .method method = .ok ())
      (refused : (object.request method argument).problem? = some problem) :
      Goes objects (.call number method argument) [] (.failed (.transport problem))
  | called {number : Nat} {method argument : String} {object : RemoteObject} {answer : Answer}
      (present : objects[number]? = some object) (accepted : validate .method method = .ok ())
      (sendable : (object.request method argument).problem? = none) :
      Goes objects (.call number method argument) [⟨object.request method argument, answer⟩]
        (.ofResult .replied (answer.reply (object.target method)))
  | unsentOwner {service : String} {problem : LinkError}
      (refused : (ownerRequest service).problem? = some problem) :
      Goes objects (.owner service) [] (.failed (.transport problem))
  | asked {service : String} {answer : Answer}
      (sendable : (ownerRequest service).problem? = none) :
      Goes objects (.owner service) [⟨ownerRequest service, answer⟩]
        (.ofResult .owner answer.ownership)
  | unsentStart {service : String} {problem : LinkError}
      (refused : (startRequest service).problem? = some problem) :
      Goes objects (.start service) [] (.failed (.transport problem))
  | started {service : String} {answer : Answer}
      (sendable : (startRequest service).problem? = none) :
      Goes objects (.start service) [⟨startRequest service, answer⟩]
        (.ofResult (fun _ => .started) (answer.activation service))

theorem Outcome.object?_ofResult {α : Type} {done : α → Outcome}
    (foundless : ∀ value, (done value).object? = none) (result : Except BusError α) :
    (Outcome.ofResult done result).object? = none := by
  cases result with
  | ok value => exact foundless value
  | error error => rfl

/-! ### Steps as tasks -/

/-- A task becomes a step by what its value means; an object that it yields goes to the end of the
table. -/
def Session.take {α : Type} (session : Session) (task : Task Line α) (done : α → Outcome) :
    Outcome × Session :=
  let outcome := Outcome.ofResult done (session.run task).1
  (outcome, { (session.run task).2 with
    objects := session.objects ++ outcome.object?.toList })

theorem Session.run_objects {α : Type} (session : Session) (task : Task Line α) :
    (session.run task).2.objects = session.objects := by
  unfold Session.run
  split <;> rfl

section Tasks

variable (session : Session)

theorem Session.take_foundless {α : Type} (task : Task Line α) {done : α → Outcome}
    (foundless : ∀ value, (done value).object? = none) :
    session.take task done =
      match session.run task with
      | (.ok value, next) => (done value, next)
      | (.error error, next) => (.failed error, next) := by
  have kept := session.run_objects task
  have none := Outcome.object?_ofResult foundless (session.run task).1
  unfold Session.take
  dsimp only
  rw [none, Option.toList_none, List.append_nil, ← kept]
  rcases session.run task with ⟨error | value, next⟩ <;> rfl

theorem Session.step_find (service path : String) (interface : Option String) :
    session.step (.find service path interface) =
      session.take (RemoteObject.find service path interface)
        fun object => .found session.objects.length object := by
  have kept := session.run_objects (RemoteObject.find service path interface)
  unfold Session.step Session.take
  dsimp only
  cases ran : session.run (RemoteObject.find service path interface) with
  | mk result next =>
      rw [ran] at kept
      cases result with
      | ok object => simp [Outcome.ofResult, Outcome.object?, ← kept]
      | error error => simp [Outcome.ofResult, Outcome.object?, ← kept]

theorem Session.step_call {number : Nat} {object : RemoteObject}
    (present : session.objects[number]? = some object) (method argument : String) :
    session.step (.call number method argument) =
      session.take (object.call method argument) .replied := by
  rw [session.take_foundless _ fun _ => rfl]
  unfold Session.step
  simp only [present]
  rcases session.run (object.call method argument) with ⟨error | reply, next⟩ <;> rfl

theorem Session.step_owner (service : String) :
    session.step (.owner service) = session.take (Daemon.nameOwner service) .owner := by
  rw [session.take_foundless _ fun _ => rfl]
  unfold Session.step
  dsimp only
  rcases session.run (Daemon.nameOwner service) with ⟨error | name, next⟩ <;> rfl

theorem Session.step_start (service : String) :
    session.step (.start service) =
      session.take (Daemon.startService service) fun _ => .started := by
  rw [session.take_foundless _ fun _ => rfl]
  unfold Session.step
  dsimp only
  rcases session.run (Daemon.startService service) with ⟨error | nothing, next⟩ <;> rfl

end Tasks

/-! ### Every step goes one of the ways -/

/-- A step with its requests: it goes one of the ways with the answers that come next, uses up an
answer for each request, and puts what it found at the end of the table. -/
structure Session.Steps (session : Session) (step : Step) (asked : List Request) : Prop where
  goes : step.Goes session.objects (session.line.state.exchanges asked) (session.step step).1
  leaves : ∃ entries, (session.step step).2 =
    { objects := session.objects ++ (session.step step).1.object?.toList
      line := {
        state := session.line.state.afterAll asked
        journal := session.line.journal ++ entries } }

variable {session : Session} {step : Step}

private theorem steps_of_take {α : Type} {task : Task Line α} {result : Except BusError α}
    {asked : List Request} {done : α → Outcome} (same : session.step step = session.take task done)
    (yields : Yields task session.line.state result (session.line.state.afterAll asked))
    (goes : step.Goes session.objects (session.line.state.exchanges asked)
      (.ofResult done result)) :
    session.Steps step asked := by
  obtain ⟨entries, ran⟩ := yields.session_run
  have taken : session.step step =
      (.ofResult done result,
        { objects := session.objects ++ (Outcome.ofResult done result).object?.toList
          line := {
            state := session.line.state.afterAll asked
            journal := session.line.journal ++ entries } }) := by
    rw [same, Session.take, ran]
  constructor
  · rw [taken]
    exact goes
  · refine ⟨entries, ?_⟩
    rw [taken]

private theorem steps_of_failed_take {α : Type} {task : Task Line α} {error : BusError}
    {done : α → Outcome} (same : session.step step = session.take task done)
    (yields : Yields task session.line.state (.error error) session.line.state)
    (goes : step.Goes session.objects [] (.failed error)) :
    session.Steps step [] := by
  have unmoved : Yields task session.line.state (.error error)
      (session.line.state.afterAll []) := by
    rw [Line.afterAll_nil]
    exact yields
  exact steps_of_take same unmoved goes

private theorem find_steps (session : Session) (service path : String)
    (interface : Option String) : ∃ asked, session.Steps (.find service path interface) asked := by
  have same := session.step_find service path interface
  cases names : validateAll (targetNames service path interface) with
  | error error =>
      exact ⟨[], steps_of_failed_take same (find_misnamed names _) (.misnamed names)⟩
  | ok nothing =>
      obtain ⟨asked, result, search, searched⟩ :=
        owner_yields (checkBus_of_targetNames names) session.line.state
      have goes : Step.Goes session.objects _ _ _ := .searched names search.of_exchanges
      refine ⟨asked, steps_of_take same (find_yields names searched) ?_⟩
      cases result <;> exact goes

private theorem call_steps (session : Session) (number : Nat) (method argument : String) :
    ∃ asked, session.Steps (.call number method argument) asked := by
  cases present : session.objects[number]? with
  | none =>
      have stepped : session.step (.call number method argument) = (.noObject, session) := by
        unfold Session.step
        simp only [present]
      refine ⟨[], ?_, [], ?_⟩
      · rw [stepped]
        exact .noObject present
      · rw [stepped]
        simp [Outcome.object?]
  | some object =>
      have same := session.step_call present method argument
      cases named : validate .method method with
      | error error =>
          exact ⟨[], steps_of_failed_take same (call_misnamed named _)
            (.misnamedMethod present named)⟩
      | ok nothing =>
          cases sent : (object.request method argument).problem? with
          | some problem =>
              exact ⟨[], steps_of_failed_take same (call_refused named sent _)
                (.unsentCall present named sent)⟩
          | none =>
              have answered := call_yields named sent session.line.state []
              rw [Line.afterAll_nil] at answered
              exact ⟨_, steps_of_take same answered (.called present named sent)⟩

private theorem owner_steps (session : Session) (service : String) :
    ∃ asked, session.Steps (.owner service) asked := by
  have same := session.step_owner service
  cases sent : (ownerRequest service).problem? with
  | some problem =>
      exact ⟨[], steps_of_failed_take same (nameOwner_refused _ sent) (.unsentOwner sent)⟩
  | none =>
      have answered := nameOwner_yields session.line.state sent []
      rw [Line.afterAll_nil] at answered
      exact ⟨_, steps_of_take same answered (.asked sent)⟩

private theorem start_steps (session : Session) (service : String) :
    ∃ asked, session.Steps (.start service) asked := by
  have same := session.step_start service
  cases sent : (startRequest service).problem? with
  | some problem =>
      exact ⟨[], steps_of_failed_take same (startService_refused _ sent) (.unsentStart sent)⟩
  | none =>
      have answered := startService_yields session.line.state sent []
      rw [Line.afterAll_nil] at answered
      exact ⟨_, steps_of_take same answered (.started sent)⟩

theorem Session.step_steps (session : Session) (step : Step) :
    ∃ asked, session.Steps step asked := by
  cases step with
  | find service path interface => exact find_steps session service path interface
  | call number method argument => exact call_steps session number method argument
  | owner service => exact owner_steps session service
  | start service => exact start_steps session service

/-! ### What the way of a step tells -/

/-- A call of the object can be sent. -/
def RemoteObject.Sends (object : RemoteObject) (method argument : String) : Prop :=
  Name.check .method method = .ok () ∧ Name.checkBus object.destination = .ok () ∧
    '\x00' ∉ argument.toList

theorem RemoteObject.sends_iff (object : RemoteObject) (method argument : String) :
    object.Sends method argument ↔ validate .method method = .ok () ∧
      (object.request method argument).problem? = none := by
  rw [validate_eq_ok_iff, Request.problem?_eq_none_iff]
  simp [RemoteObject.Sends, RemoteObject.request]

variable {objects : List RemoteObject} {exchanges : List Exchange} {outcome : Outcome}

private theorem ofResult_ne_found {α : Type} {done : α → Outcome} {result : Except BusError α}
    {number : Nat} {object : RemoteObject} (foundless : ∀ value, (done value).object? = none) :
    Outcome.ofResult done result ≠ .found number object := by
  intro found
  have none := Outcome.object?_ofResult foundless result
  rw [found] at none
  cases none

/-- Only a search for an object finds one, and gives it the next number. -/
theorem Step.Goes.finds (goes : step.Goes objects exchanges outcome) {number : Nat}
    {object : RemoteObject} (found : outcome = .found number object) :
    (∃ service path interface, step = .find service path interface) ∧ number = objects.length := by
  cases goes with
  | @searched service path interface _ result =>
      cases result with
      | ok destination =>
          cases found
          exact ⟨⟨service, path, interface, rfl⟩, rfl⟩
      | error error => cases found
  | called => exact absurd found (ofResult_ne_found fun _ => rfl)
  | asked => exact absurd found (ofResult_ne_found fun _ => rfl)
  | started => exact absurd found (ofResult_ne_found fun _ => rfl)
  | _ => cases found

/-- A call makes the one request of its object, or none if it cannot be sent. -/
theorem Step.Goes.calls {number : Nat} {method argument : String} {object : RemoteObject}
    (goes : (Step.call number method argument).Goes objects exchanges outcome)
    (bound : objects[number]? = some object) :
    (object.Sends method argument →
        exchanges.map Exchange.request = [object.request method argument]) ∧
      (¬ object.Sends method argument → exchanges.map Exchange.request = []) := by
  rw [object.sends_iff]
  cases goes with
  | noObject missing => simp [bound] at missing
  | misnamedMethod present rejected => simp [rejected]
  | unsentCall present accepted refused =>
      rw [bound] at present
      cases present
      simp [refused]
  | called present accepted sendable =>
      rw [bound] at present
      cases present
      simp [accepted, sendable]

end SessionProbe.Bus
