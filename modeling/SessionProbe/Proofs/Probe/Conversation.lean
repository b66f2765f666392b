import SessionProbe.Probe
import SessionProbe.Proofs.Bus.RemoteObject
import SessionProbe.Proofs.Sink

set_option autoImplicit false

/-!
What a probe does on the bus. `Conversation` lists how a run can go once it is connected: where it
stops, which requests it makes to the daemon and to the object, and what comes out. `run_yields`
reduces a run to its part on the bus and the printing of the reply.
-/

namespace SessionProbe

open Bus

namespace Probe

variable {σ : Type}

/-! ### The parts of a run -/

def ask (probe : Probe) (endpoint : Endpoint) : Task Line Reply := do
  connect endpoint
  let object ← RemoteObject.find probe.service probe.path probe.interface
  probe.invoke object.call

def emit (reply : Reply) : Run σ Unit := do
  Run.output fun sink => sink.write (Text.Utf8.encode (reply.display ++ "\n"))
  Run.output Sink.flush

/-- How a run ends whose part on the bus had a result. -/
def conclude (probe : Probe) (result : Except BusError Reply) : Run σ Unit := fun state =>
  match result with
  | .ok reply => emit reply state
  | .error error => .error { attempt := probe.attempt, cause := .bus error } state

private theorem attempt_apply {α : Type} (what : String) (task : Task σ α) (logged : Logged σ)
    (sink : Sink) :
    Run.attempt what task (logged, sink) =
      match task logged with
      | .ok value logged => .ok value (logged, sink)
      | .error error logged => .error { attempt := what, cause := .bus error } (logged, sink) :=
  rfl

private theorem attempt_bind {α β : Type} (what : String) (first : Task σ α)
    (next : α → Task σ β) :
    Run.attempt what (first >>= next) =
      (Run.attempt what first >>= fun value => Run.attempt what (next value)) := by
  funext ⟨logged, sink⟩
  rw [bind_apply, attempt_apply, attempt_apply, bind_apply]
  cases first logged <;> rfl

theorem print_eq (probe : Probe) (callee : Callee σ) :
    probe.print callee = (Run.attempt probe.attempt (probe.invoke callee) >>= emit) := by
  simp only [print, Sink.writeTexts_line]
  rfl

theorem run_eq (probe : Probe) (endpoint : Endpoint) :
    probe.run endpoint = (Run.attempt probe.attempt (probe.ask endpoint) >>= emit) := by
  simp only [run, ask, print_eq, attempt_bind, bind_assoc]

/-- The result of a task decides how the printing of it ends, and the sink is untouched until
then. -/
theorem emitted_yields (probe : Probe) {task : Task σ Reply} {before after : σ}
    {result : Except BusError Reply} (yields : Yields task before result after)
    (journal : List Journal.Entry) (sink : Sink) :
    ∃ entries, (Run.attempt probe.attempt task >>= emit) ({ state := before, journal }, sink) =
      probe.conclude result ({ state := after, journal := journal ++ entries }, sink) := by
  obtain ⟨entries, ran⟩ := yields journal
  refine ⟨entries, ?_⟩
  rw [bind_apply, attempt_apply, ran]
  cases result <;> rfl

theorem run_yields {probe : Probe} {endpoint : Endpoint} {before after : Line}
    {result : Except BusError Reply} (asks : Yields (probe.ask endpoint) before result after)
    (journal : List Journal.Entry) (sink : Sink) :
    ∃ entries, probe.run endpoint ({ state := before, journal }, sink) =
      probe.conclude result ({ state := after, journal := journal ++ entries }, sink) := by
  rw [run_eq]
  exact probe.emitted_yields asks journal sink

/-! ### Conversations -/

def request (probe : Probe) (owner : String) : Request where
  destination := owner
  path := probe.path
  interface := probe.interface
  member := probe.method
  arguments := [.text probe.argument]

def target (probe : Probe) : CallTarget where
  service := probe.service
  path := probe.path
  method := probe.method

/-- The names of the object that a probe calls. -/
def targetNames (probe : Probe) : List (Name.Kind × String) :=
  Bus.targetNames probe.service probe.path probe.interface

def names (probe : Probe) : List (Name.Kind × String) :=
  probe.targetNames ++ [(.method, probe.method)]

/-- How a probe gets on with the bus: its questions to the daemon, its calls, and the result. -/
inductive Conversation (probe : Probe) (line : Line) :
    (asked called : List Request) → Except BusError Reply → Prop
  | misnamed {error : BusError} (rejected : validateAll probe.targetNames = .error error) :
      Conversation probe line [] [] (.error error)
  | unresolved {asked : List Request} {error : BusError}
      (accepted : validateAll probe.targetNames = .ok ())
      (search : Resolves line probe.service asked (.error error)) :
      Conversation probe line asked [] (.error error)
  /-- The object is found, and the name of the method is malformed. -/
  | badMethod {asked : List Request} {owner : String} {error : BusError}
      (accepted : validateAll probe.targetNames = .ok ())
      (search : Resolves line probe.service asked (.ok owner))
      (rejected : validate .method probe.method = .error error) :
      Conversation probe line asked [] (.error error)
  | refused {asked : List Request} {owner : String} {problem : LinkError}
      (accepted : validateAll probe.targetNames = .ok ())
      (search : Resolves line probe.service asked (.ok owner))
      (method : validate .method probe.method = .ok ())
      (unsent : (probe.request owner).problem? = some problem) :
      Conversation probe line asked [] (.error (.transport problem))
  | called {asked : List Request} {owner : String}
      (accepted : validateAll probe.targetNames = .ok ())
      (search : Resolves line probe.service asked (.ok owner))
      (method : validate .method probe.method = .ok ())
      (sent : (probe.request owner).problem? = none) :
      Conversation probe line asked [probe.request owner]
        ((line.answer asked.length).reply probe.target)

theorem connect_yields {endpoint : Endpoint} {name : String}
    (accepted : endpoint.uniqueName = .ok name) (state : σ) :
    Yields (connect endpoint) state (.ok ()) state := by
  refine Yields.after_note ?_
  rw [accepted]
  exact Yields.after_note (yields_note _ _ _ _)

theorem connect_refused {endpoint : Endpoint} {fault : LinkError}
    (refused : endpoint.uniqueName = .error fault) (state : σ) :
    Yields (connect endpoint) state (.error (.connect fault)) state := by
  refine Yields.after_note ?_
  rw [refused]
  exact yields_throw _ _

theorem invoke_yields {probe : Probe} {callee : Callee σ} {before after : σ}
    {result : Except BusError Reply}
    (call : Yields (callee probe.method probe.argument) before result after) :
    Yields (probe.invoke callee) before result after := by
  refine Yields.after_note ?_
  cases result with
  | ok reply =>
      refine call.bind ?_
      exact Yields.after_note (yields_pure _ _)
  | error error => exact call.bind_error

theorem ask_refused (probe : Probe) {endpoint : Endpoint} {fault : LinkError}
    (refused : endpoint.uniqueName = .error fault) (line : Line) :
    Yields (probe.ask endpoint) line (.error (.connect fault)) line :=
  (connect_refused refused line).bind_error

/-- A probe that gets through has one of the conversations listed. -/
theorem ask_converses (probe : Probe) {endpoint : Endpoint} {name : String}
    (accepted : endpoint.uniqueName = .ok name) (line : Line) :
    ∃ asked called result, probe.Conversation line asked called result ∧
      Yields (probe.ask endpoint) line result (line.afterAll (asked ++ called)) := by
  have connected := connect_yields accepted line
  cases names : validateAll probe.targetNames with
  | error error =>
      refine ⟨[], [], .error error, .misnamed names, ?_⟩
      rw [List.append_nil, Line.afterAll_nil]
      exact connected.bind (find_misnamed names line).bind_error
  | ok nothing =>
      obtain ⟨asked, found, search, searched⟩ :=
        owner_yields (checkBus_of_targetNames names) line
      have located := find_yields names searched
      cases found with
      | error error =>
          refine ⟨asked, [], .error error, .unresolved names search, ?_⟩
          rw [List.append_nil]
          exact connected.bind located.bind_error
      | ok owner =>
          let object : RemoteObject :=
            { service := probe.service
              destination := owner
              path := probe.path
              interface := probe.interface }
          cases method : validate .method probe.method with
          | error error =>
              refine ⟨asked, [], .error error, .badMethod names search method, ?_⟩
              rw [List.append_nil]
              exact connected.bind (located.bind (invoke_yields (call_misnamed method _)))
          | ok nothing =>
              cases sent : (probe.request owner).problem? with
              | some problem =>
                  have refused := @call_refused object _ _ _ method sent
                  refine ⟨asked, [], .error (.transport problem),
                    .refused names search method sent, ?_⟩
                  rw [List.append_nil]
                  exact connected.bind (located.bind (invoke_yields (refused _)))
              | none =>
                  have answered := @call_yields object _ _ method sent line asked
                  exact ⟨asked, [probe.request owner], _, .called names search method sent,
                    connected.bind (located.bind (invoke_yields answered))⟩

end Probe

end SessionProbe
