import SessionProbe.Proofs.Probe.Requests

set_option autoImplicit false

/-!
Malformed names. A run with one fails, writes nothing and calls nothing. It fails for that name and
before any request if the name belongs to the object; the name of the method is looked at only once
the owner of the service is known, so that a malformed one is found without any request just where
the service is a unique name.
-/

namespace SessionProbe.Probe

open Bus
open Daemon (ownerRequest startRequest)

/-- A run with a malformed name fails without a word and without a call; and it fails for such a
name and without any request just when a name of the object is malformed or the service is a unique
name. -/
theorem malformed_quiet_iff (probe : Probe) {endpoint : Endpoint} {name : String}
    (accepted : endpoint.uniqueName = .ok name)
    (malformed : ∃ name ∈ probe.names, Name.check name.1 name.2 ≠ .ok ())
    (journal : List Journal.Entry) (sink : Sink) :
    ∃ asked error entries,
      probe.run endpoint ({ state := endpoint.line, journal }, sink) =
        .error { attempt := probe.attempt, cause := .bus error }
          ({ state := endpoint.line.afterAll asked, journal := journal ++ entries }, sink) ∧
      asked <+: [ownerRequest probe.service, startRequest probe.service,
        ownerRequest probe.service] ∧
      (error.Rejects probe.names ∧ asked = [] ↔
        (∃ name ∈ probe.targetNames, Name.check name.1 name.2 ≠ .ok ()) ∨
          isUniqueName probe.service = true) := by
  obtain ⟨asked, called, result, talk, asks⟩ := probe.ask_converses accepted endpoint.line
  obtain ⟨entries, ran⟩ := run_yields asks journal sink
  have order := talk.requestLaw.questions
  have inOrder : validateAll probe.targetNames = .ok () →
      ¬ ∃ name ∈ probe.targetNames, Name.check name.1 name.2 ≠ .ok () := by
    rw [validateAll_eq_ok_iff]
    rintro valid ⟨name, member, bad⟩
    exact bad (valid name member)
  cases talk with
  | misnamed rejected =>
      have rejects := validateAll_eq_error rejected
      refine ⟨[], _, entries, ran, order, ?_⟩
      have present : ∃ name ∈ probe.targetNames, Name.check name.1 name.2 ≠ .ok () := by
        obtain ⟨kind, value, reason, member, checked, _⟩ := rejects
        exact ⟨(kind, value), member, by simp [checked]⟩
      have subset : probe.targetNames ⊆ probe.names := List.subset_append_left _ _
      exact ⟨fun _ => Or.inl present, fun _ => ⟨rejects.mono subset, rfl⟩⟩
  | unresolved valid search =>
      rw [List.append_nil] at ran
      refine ⟨asked, _, entries, ran, order, ?_⟩
      have notUnique : isUniqueName probe.service ≠ true := by
        intro isUnique
        cases search <;> simp_all
      constructor
      · intro quiet
        exact absurd (search.asked_eq_nil_iff.mp quiet.2) notUnique
      · intro cause
        exact absurd (cause.resolve_left (inOrder valid)) notUnique
  | badMethod valid search rejected =>
      rw [List.append_nil] at ran
      refine ⟨asked, _, entries, ran, order, ?_⟩
      obtain ⟨reason, checked, same⟩ := validate_eq_error rejected
      have rejects : BusError.Rejects _ probe.names :=
        ⟨.method, probe.method, reason, by simp [names], checked, same⟩
      constructor
      · intro quiet
        exact Or.inr (search.asked_eq_nil_iff.mp quiet.2)
      · intro cause
        exact ⟨rejects, search.asked_eq_nil_iff.mpr (cause.resolve_left (inOrder valid))⟩
  | refused valid search method =>
      obtain ⟨bad, member, broken⟩ := malformed
      exact absurd ((forall_mem_names_iff probe).mpr ⟨valid, method⟩ bad member) broken
  | called valid search method =>
      obtain ⟨bad, member, broken⟩ := malformed
      exact absurd ((forall_mem_names_iff probe).mpr ⟨valid, method⟩ bad member) broken

def digitProbe : Probe :=
  { cbsim with method := "1method" }

theorem digitProbe_malformed : ∃ name ∈ digitProbe.names, Name.check name.1 name.2 ≠ .ok () := by
  have broken : Name.check .method "1method" = .error (.method .leadingDigit) := by rfl
  refine ⟨(.method, "1method"), by decide, ?_⟩
  simp [broken]

theorem digitProbe_fails_without_call :
    activatingBus.uniqueName = .ok ":1.100" ∧
      (∃ name ∈ digitProbe.names, Name.check name.1 name.2 ≠ .ok ()) ∧
      ∃ asked error entries,
        digitProbe.run activatingBus ({ state := activatingBus.line, journal := [] }, {}) =
          .error { attempt := digitProbe.attempt, cause := .bus error }
            ({ state := activatingBus.line.afterAll asked, journal := [] ++ entries }, {}) ∧
        asked <+: [ownerRequest digitProbe.service, startRequest digitProbe.service,
          ownerRequest digitProbe.service] ∧
        (error.Rejects digitProbe.names ∧ asked = [] ↔
          (∃ name ∈ digitProbe.targetNames, Name.check name.1 name.2 ≠ .ok ()) ∨
            isUniqueName digitProbe.service = true) :=
  ⟨activatingBus_accepts, digitProbe_malformed,
    malformed_quiet_iff digitProbe activatingBus_accepts digitProbe_malformed [] {}⟩

/-- The malformed method does not keep the service from being started. -/
theorem digitProbe_starts_service :
    activatingBus.uniqueName = .ok ":1.100" ∧
      (∃ name ∈ digitProbe.names, Name.check name.1 name.2 ≠ .ok ()) ∧
      (stateLeft (digitProbe.run activatingBus
          ({ state := activatingBus.line, journal := [] }, {}))).1.state.requests =
        [ownerRequest serverName, startRequest serverName, ownerRequest serverName] :=
  ⟨activatingBus_accepts, digitProbe_malformed, by decide⟩

end SessionProbe.Probe
