import SessionProbe.Proofs.Probe.Conversation
import SessionProbe.Proofs.Wire.Frame

set_option autoImplicit false

/-!
The requests of a run. `RequestLaw` says which requests a probe may make, to whom and with what in
them, and for each when it is made. `run_request_law` says that every run on a bus that lets the
client in keeps this law, whatever the script and the sink.
-/

namespace SessionProbe

open Bus
open Daemon (ownerRequest startRequest)

def stateLeft {ε σ α : Type} : EStateM.Result ε σ α → σ
  | .ok _ state => state
  | .error _ state => state

namespace Probe

/-! ### Printing makes no request -/

private theorem output_logged {σ : Type} (action : Sink → Except String Unit × Sink)
    (state : Logged σ × Sink) : (stateLeft (Run.output action state)).1 = state.1 := by
  unfold Run.output
  dsimp only
  split <;> rfl

theorem conclude_logged {σ : Type} (probe : Probe) (result : Except BusError Reply)
    (state : Logged σ × Sink) : (stateLeft (probe.conclude result state)).1 = state.1 := by
  cases result with
  | error error => rfl
  | ok reply =>
      have written := output_logged
        (fun sink => sink.write (Text.Utf8.encode (reply.display ++ "\n"))) state
      simp only [conclude, emit]
      rw [bind_apply]
      split
      · rename_i after outcome
        rw [outcome] at written
        exact (output_logged Sink.flush after).trans written
      · rename_i after outcome
        rw [outcome] at written
        exact written

/-! ### The law -/

/-- Which requests a probe makes on a line: its questions to the bus daemon, and then its calls. -/
structure RequestLaw (probe : Probe) (line : Line) (asked called : List Request) : Prop where
  /-- There is no request, or there is the call alone for a unique name, or the requests begin one
  of two courses: with a service that has an owner, and with one that has to be started. -/
  course : asked ++ called = [] ∨
    isUniqueName probe.service = true ∧ asked ++ called = [probe.request probe.service] ∨
    isUniqueName probe.service = false ∧ asked ++ called ≠ [] ∧ ∃ owner,
      (asked ++ called <+: [ownerRequest probe.service, probe.request owner] ∨
        asked ++ called <+: [ownerRequest probe.service, startRequest probe.service,
          ownerRequest probe.service, probe.request owner])
  /-- The questions stand in the order of a search. -/
  questions : asked <+:
    [ownerRequest probe.service, startRequest probe.service, ownerRequest probe.service]
  /-- Every question goes to the daemon and is about the service of the probe. -/
  daemon : ∀ request ∈ asked, request.destination = Name.daemon ∧
    (request.member = "GetNameOwner" ∧ request.arguments = [.text probe.service] ∨
      request.member = "StartServiceByName" ∧
        request.arguments = [.text probe.service, .number 0])
  /-- The daemon is asked about a name that is not unique if all names of the object are valid. -/
  asks : asked ≠ [] ↔ isUniqueName probe.service = false ∧
    ∀ name ∈ probe.targetNames, Name.check name.1 name.2 = .ok ()
  /-- The start is asked for just when the first question is answered by the denial of an owner. -/
  starts : startRequest probe.service ∈ asked ↔ asked ≠ [] ∧ (line.answer 0).DeniesOwner
  /-- The owner is asked for again just when the start is answered by a number. -/
  asksAgain : asked.length = 3 ↔ startRequest probe.service ∈ asked ∧
    ∃ number, (line.answer 1).Returns readNumber number
  /-- There is one call at most. It stands behind all questions. -/
  callsOnce : called.length ≤ 1
  /-- A call goes to a unique service itself, or else to the owner that the last question was
  answered by. -/
  callsOwner : ∀ request ∈ called, ∃ owner, request = probe.request owner ∧
    (isUniqueName probe.service = true ∧ owner = probe.service ∨
      ∃ earlier, asked = earlier ++ [ownerRequest probe.service] ∧
        (line.answer earlier.length).Returns readText owner)
  /-- There is a call just when all names are valid, the argument is a text that can be sent, and
  the answers tell an owner that has a name to send it to. -/
  calls : called ≠ [] ↔ (∀ name ∈ probe.names, Name.check name.1 name.2 = .ok ()) ∧
    '\x00' ∉ probe.argument.toList ∧
    ∃ owner count, line.FindsOwner probe.service owner count ∧ Name.checkBus owner = .ok ()

variable {probe : Probe} {line : Line} {asked called : List Request}
  {result : Except BusError Reply}

theorem forall_mem_names_iff (probe : Probe) :
    (∀ name ∈ probe.names, Name.check name.1 name.2 = .ok ()) ↔
      validateAll probe.targetNames = .ok () ∧ validate .method probe.method = .ok () := by
  rw [validateAll_eq_ok_iff, validate_eq_ok_iff]
  simp only [names, List.forall_mem_append, List.forall_mem_singleton]

theorem request_sendable_iff (probe : Probe) (owner : String) :
    (probe.request owner).problem? = none ↔
      Name.checkBus owner = .ok () ∧ '\x00' ∉ probe.argument.toList := by
  rw [Request.problem?_eq_none_iff]
  simp [request]

theorem Conversation.searches (talk : probe.Conversation line asked called result) :
    asked = [] ∧ called = [] ∧ validateAll probe.targetNames ≠ .ok () ∨
      validateAll probe.targetNames = .ok () ∧ ∃ found, Resolves line probe.service asked found := by
  cases talk with
  | misnamed rejected =>
      refine Or.inl ⟨rfl, rfl, ?_⟩
      simp [rejected]
  | unresolved accepted search => exact Or.inr ⟨accepted, _, search⟩
  | badMethod accepted search => exact Or.inr ⟨accepted, _, search⟩
  | refused accepted search => exact Or.inr ⟨accepted, _, search⟩
  | called accepted search => exact Or.inr ⟨accepted, _, search⟩

theorem Conversation.calls_found (talk : probe.Conversation line asked called result) :
    called = [] ∨ ∃ owner, Resolves line probe.service asked (.ok owner) ∧
      called = [probe.request owner] := by
  cases talk with
  | called accepted search => exact Or.inr ⟨_, search, rfl⟩
  | _ => exact Or.inl rfl

private theorem Conversation.course (talk : probe.Conversation line asked called result) :
    asked ++ called = [] ∨
      isUniqueName probe.service = true ∧ asked ++ called = [probe.request probe.service] ∨
      isUniqueName probe.service = false ∧ asked ++ called ≠ [] ∧ ∃ owner,
        (asked ++ called <+: [ownerRequest probe.service, probe.request owner] ∨
          asked ++ called <+: [ownerRequest probe.service, startRequest probe.service,
            ownerRequest probe.service, probe.request owner]) := by
  rcases talk.searches with ⟨noQuestion, noCall, _⟩ | ⟨_, found, search⟩
  · exact Or.inl (by rw [noQuestion, noCall, List.append_nil])
  · rcases talk.calls_found with noCall | ⟨owner, search, call⟩
    · subst noCall
      rw [List.append_nil]
      -- Without a call, the questions of the search are all there is.
      cases search with
      | unique isUnique => exact Or.inl rfl
      | _ => simp_all
    · subst call
      cases search with
      | unique isUnique => exact Or.inr (Or.inl ⟨isUnique, rfl⟩)
      | running named =>
          exact Or.inr (Or.inr ⟨named, List.cons_ne_nil _ _, owner, Or.inl List.prefix_rfl⟩)
      | started named =>
          exact Or.inr (Or.inr ⟨named, List.cons_ne_nil _ _, owner, Or.inr List.prefix_rfl⟩)

theorem Conversation.requestLaw (talk : probe.Conversation line asked called result) :
    probe.RequestLaw line asked called where
  course := talk.course
  questions := by
    rcases talk.searches with ⟨noQuestion, _⟩ | ⟨_, found, search⟩
    · rw [noQuestion]
      exact List.nil_prefix
    · exact search.asked_prefix
  daemon := by
    intro request member
    rcases talk.searches with ⟨noQuestion, _⟩ | ⟨_, found, search⟩
    · rw [noQuestion] at member
      cases member
    · have possible := search.asked_prefix.subset member
      simp only [List.mem_cons, List.not_mem_nil, or_false] at possible
      rcases possible with same | same | same <;>
        simp [same, ownerRequest, startRequest, Daemon.request]
  asks := by
    rw [← validateAll_eq_ok_iff]
    rcases talk.searches with ⟨noQuestion, _, malformed⟩ | ⟨accepted, found, search⟩
    · simp [noQuestion, malformed]
    · rw [ne_eq, search.asked_eq_nil_iff]
      simp [accepted]
  starts := by
    rcases talk.searches with ⟨noQuestion, _⟩ | ⟨_, found, search⟩
    · simp [noQuestion]
    · exact search.start_mem_iff
  asksAgain := by
    rcases talk.searches with ⟨noQuestion, _⟩ | ⟨_, found, search⟩
    · simp [noQuestion]
    · exact search.asked_again_iff
  callsOnce := by
    rcases talk.calls_found with noCall | ⟨owner, _, call⟩
    · simp [noCall]
    · simp [call]
  callsOwner := by
    intro request member
    rcases talk.calls_found with noCall | ⟨owner, search, call⟩
    · rw [noCall] at member
      cases member
    · rw [call] at member
      refine ⟨owner, List.mem_singleton.mp member, ?_⟩
      cases search with
      | unique isUnique => exact Or.inl ⟨isUnique, rfl⟩
      | running named owned =>
          exact Or.inr ⟨[], rfl, (Answer.ownership_eq_some_iff _ _).mp owned⟩
      | started named unowned active owned =>
          exact Or.inr ⟨[_, _], rfl, (Answer.ownership_eq_some_iff _ _).mp owned⟩
  calls := by
    rw [forall_mem_names_iff]
    constructor
    · intro made
      cases talk with
      | called accepted search method sent =>
          have sendable := (request_sendable_iff _ _).mp sent
          exact ⟨⟨accepted, method⟩, sendable.2, _, _, search.findsOwner, sendable.1⟩
      | _ => exact absurd rfl made
    · rintro ⟨⟨target, method⟩, clean, owner, count, finds, reachable⟩
      have sendable := (request_sendable_iff probe owner).mpr ⟨reachable, clean⟩
      -- Each way to stop early contradicts one of the conditions.
      cases talk with
      | misnamed rejected => simp_all
      | unresolved accepted search => cases (finds.result_eq search).1
      | badMethod accepted search rejected => simp_all
      | refused accepted search accepts unsent =>
          cases (finds.result_eq search).1
          simp_all
      | called => exact List.cons_ne_nil _ _

/-- Every run on a bus that lets the client in keeps the law of requests. -/
theorem run_request_law (probe : Probe) {endpoint : Endpoint} {name : String}
    (accepted : endpoint.uniqueName = .ok name) (journal : List Journal.Entry) (sink : Sink) :
    ∃ asked called,
      (stateLeft (probe.run endpoint ({ state := endpoint.line, journal }, sink))).1.state.requests =
        endpoint.line.requests ++ (asked ++ called) ∧
      probe.RequestLaw endpoint.line asked called := by
  obtain ⟨asked, called, result, talk, asks⟩ := probe.ask_converses accepted endpoint.line
  obtain ⟨entries, ran⟩ := run_yields asks journal sink
  refine ⟨asked, called, ?_, talk.requestLaw⟩
  rw [ran, conclude_logged]
  rfl

/-- A bus on which the first service asked for has to be started and then belongs to `:1.7`, which
answers with a text. -/
def activatingBus : Endpoint :=
  .bus { hello := .returned (Frame.ofText ":1.100") }
    { answers :=
        [.failed StandardError.nameHasNoOwner.name default, .returned (Frame.ofNumber 1),
          .returned (Frame.ofText ":1.7"), .returned (Frame.ofText "done")]
      afterwards := .hungUp }

theorem activatingBus_accepts : activatingBus.uniqueName = .ok ":1.100" := by
  rfl

theorem cbsim_request_law_when_started :
    activatingBus.uniqueName = .ok ":1.100" ∧
      ∃ asked called,
        (stateLeft (cbsim.run activatingBus
            ({ state := activatingBus.line, journal := [] }, {}))).1.state.requests =
          activatingBus.line.requests ++ (asked ++ called) ∧
        cbsim.RequestLaw activatingBus.line asked called :=
  ⟨activatingBus_accepts, run_request_law cbsim activatingBus_accepts [] {}⟩

/-- All four requests are made on a bus where the service has to be started. -/
example :
    (stateLeft (cbsim.run activatingBus
        ({ state := activatingBus.line, journal := [] }, {}))).1.state.requests =
      [ownerRequest serverName, startRequest serverName, ownerRequest serverName,
        cbsim.request ":1.7"] := by
  decide +kernel

end Probe

end SessionProbe
