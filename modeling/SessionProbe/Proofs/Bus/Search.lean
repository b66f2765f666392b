import SessionProbe.Proofs.Bus.Answer

set_option autoImplicit false

/-!
The search for the owner of a service. `Resolves` lists the seven ways it can go, each with the
answers that lead there, the requests made and the result; a search on a line goes one of them, and
the answers leave no choice between them.
-/

namespace SessionProbe.Bus

open Daemon (ownerRequest startRequest)

/-- How the search for the owner of a service goes on a line: the requests made, and the result. -/
inductive Resolves (line : Line) (service : String) :
    List Request → Except BusError String → Prop
  /-- A unique name is its own owner, and nobody is asked. -/
  | unique (isUnique : isUniqueName service = true) : Resolves line service [] (.ok service)
  /-- The service has an owner. -/
  | running {owner : String} (named : isUniqueName service = false)
      (owned : (line.answer 0).ownership = .ok (some owner)) :
      Resolves line service [ownerRequest service] (.ok owner)
  | unanswered {error : BusError} (named : isUniqueName service = false)
      (failed : (line.answer 0).ownership = .error error) :
      Resolves line service [ownerRequest service] (.error error)
  | notStarted {error : BusError} (named : isUniqueName service = false)
      (unowned : (line.answer 0).ownership = .ok none)
      (failed : (line.answer 1).activation service = .error error) :
      Resolves line service [ownerRequest service, startRequest service] (.error error)
  /-- The service is started and has an owner then. -/
  | started {owner : String} (named : isUniqueName service = false)
      (unowned : (line.answer 0).ownership = .ok none)
      (active : (line.answer 1).activation service = .ok ())
      (owned : (line.answer 2).ownership = .ok (some owner)) :
      Resolves line service [ownerRequest service, startRequest service, ownerRequest service]
        (.ok owner)
  | lost {error : BusError} (named : isUniqueName service = false)
      (unowned : (line.answer 0).ownership = .ok none)
      (active : (line.answer 1).activation service = .ok ())
      (failed : (line.answer 2).ownership = .error error) :
      Resolves line service [ownerRequest service, startRequest service, ownerRequest service]
        (.error error)
  | gone (named : isUniqueName service = false)
      (unowned : (line.answer 0).ownership = .ok none)
      (active : (line.answer 1).activation service = .ok ())
      (absent : (line.answer 2).ownership = .ok none) :
      Resolves line service [ownerRequest service, startRequest service, ownerRequest service]
        (.error (.serviceUnknown service))

/-! ### Every search is one of these -/

/-- A search goes one of the ways listed, and makes the requests listed for it. -/
theorem owner_yields {service : String} (valid : Name.checkBus service = .ok ()) (line : Line) :
    ∃ asked result, Resolves line service asked result ∧
      Yields (Resolver.daemon.owner service) line result (line.afterAll asked) := by
  unfold Resolver.owner
  cases kind : isUniqueName service with
  | true =>
      refine ⟨[], .ok service, .unique kind, ?_⟩
      rw [Line.afterAll_nil]
      exact yields_pure service line
  | false =>
      -- Three questions at most; each is asked where the answer before it leaves the search open.
      have asks := Daemon.ownerRequest_sendable valid
      have starts := Daemon.startRequest_sendable valid
      have first := nameOwner_yields line asks []
      have second := startService_yields line starts [ownerRequest service]
      have third := nameOwner_yields line asks [ownerRequest service, startRequest service]
      rw [Line.afterAll_nil] at first
      simp only [List.length_nil, List.length_cons, List.nil_append, List.cons_append]
        at first second third
      simp only [Bool.false_eq_true, if_false]
      cases opening : (line.answer 0).ownership with
      | error error =>
          rw [opening] at first
          exact ⟨_, _, .unanswered kind opening, first.bind_error⟩
      | ok found =>
          rw [opening] at first
          cases found with
          | some owner => exact ⟨_, _, .running kind opening, first.bind (yields_pure owner _)⟩
          | none =>
              cases start : (line.answer 1).activation service with
              | error error =>
                  rw [start] at second
                  exact ⟨_, _, .notStarted kind opening start,
                    first.bind second.bind_error.after_note⟩
              | ok nothing =>
                  rw [start] at second
                  cases closing : (line.answer 2).ownership with
                  | error error =>
                      rw [closing] at third
                      exact ⟨_, _, .lost kind opening start closing,
                        first.bind (second.bind third.bind_error).after_note⟩
                  | ok found =>
                      rw [closing] at third
                      cases found with
                      | some owner =>
                          exact ⟨_, _, .started kind opening start closing,
                            first.bind (second.bind
                              (third.bind (yields_pure owner _))).after_note⟩
                      | none =>
                          exact ⟨_, _, .gone kind opening start closing,
                            first.bind (second.bind
                              (third.bind (yields_throw _ _))).after_note⟩

/-! ### What the requests of a search tell about the answers -/

variable {line : Line} {service : String} {asked : List Request}
  {result : Except BusError String}

theorem Daemon.startRequest_ne_ownerRequest (one other : String) :
    startRequest one ≠ ownerRequest other := by
  simp [ownerRequest, startRequest, Daemon.request]

theorem Resolves.asked_prefix (search : Resolves line service asked result) :
    asked <+: [ownerRequest service, startRequest service, ownerRequest service] := by
  cases search <;> simp

theorem Resolves.asked_eq_nil_iff (search : Resolves line service asked result) :
    asked = [] ↔ isUniqueName service = true := by
  cases search <;> simp_all

theorem Resolves.start_mem_iff (search : Resolves line service asked result) :
    startRequest service ∈ asked ↔ asked ≠ [] ∧ (line.answer 0).DeniesOwner := by
  have different := Daemon.startRequest_ne_ownerRequest service service
  cases search <;> simp_all [← Answer.ownership_eq_none_iff]

theorem Resolves.asked_again_iff (search : Resolves line service asked result) :
    asked.length = 3 ↔
      startRequest service ∈ asked ∧ ∃ number, (line.answer 1).Returns readNumber number := by
  have different := Daemon.startRequest_ne_ownerRequest service service
  cases search <;> simp_all [← Answer.activation_eq_ok_iff _ service]

/-- The answers tell the owner of a service after a number of requests. -/
inductive Line.FindsOwner (line : Line) (service : String) : String → Nat → Prop
  | unique (isUnique : isUniqueName service = true) : line.FindsOwner service service 0
  | running {owner : String} (named : isUniqueName service = false)
      (owned : (line.answer 0).Returns readText owner) : line.FindsOwner service owner 1
  | started {owner : String} (named : isUniqueName service = false)
      (unowned : (line.answer 0).DeniesOwner)
      (active : ∃ number, (line.answer 1).Returns readNumber number)
      (owned : (line.answer 2).Returns readText owner) : line.FindsOwner service owner 3

theorem Resolves.findsOwner {owner : String}
    (search : Resolves line service asked (.ok owner)) :
    line.FindsOwner service owner asked.length := by
  cases search with
  | unique isUnique => exact .unique isUnique
  | running named owned =>
      exact .running named ((Answer.ownership_eq_some_iff _ _).mp owned)
  | started named unowned active owned =>
      exact .started named ((Answer.ownership_eq_none_iff _).mp unowned)
        ((Answer.activation_eq_ok_iff _ _).mp active)
        ((Answer.ownership_eq_some_iff _ _).mp owned)

/-- Where the answers tell an owner, no search ends otherwise. -/
theorem Line.FindsOwner.result_eq {owner : String} {count : Nat}
    (finds : line.FindsOwner service owner count) (search : Resolves line service asked result) :
    result = .ok owner ∧ asked.length = count := by
  cases finds with
  | unique isUnique => cases search <;> simp_all
  | running named owned =>
      have first := (Answer.ownership_eq_some_iff _ _).mpr owned
      cases search <;> simp_all
  | started named unowned active owned =>
      have first := (Answer.ownership_eq_none_iff _).mpr unowned
      have second := (Answer.activation_eq_ok_iff _ service).mpr active
      have third := (Answer.ownership_eq_some_iff _ _).mpr owned
      cases search <;> simp_all

end SessionProbe.Bus
