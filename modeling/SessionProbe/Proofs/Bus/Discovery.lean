import SessionProbe.Proofs.Bus.RemoteObject
import SessionProbe.Proofs.Wire.Frame

set_option autoImplicit false

/-!
What looking for an object of a well-known service comes to. Three answers at most decide it: they
name an owner, or they say that there is none, and in every other case the fault is the
connection's. `find_discovery_law` says so for every line, whatever was said on it before.
-/

namespace SessionProbe.Bus

/-- The answers name an owner, at once or after the service was started. -/
def Line.NamesOwner (line : Line) (owner : String) : Prop :=
  (line.answer 0).Returns readText owner ∨
    (line.answer 0).DeniesOwner ∧ (∃ number, (line.answer 1).Returns readNumber number) ∧
      (line.answer 2).Returns readText owner

/-- The answers say that there is no owner: the start is answered by an error, or it succeeds and
there is none even then. -/
def Line.LacksOwner (line : Line) : Prop :=
  (line.answer 0).DeniesOwner ∧
    ((∃ name frame, line.answer 1 = .failed name frame) ∨
      (∃ number, (line.answer 1).Returns readNumber number) ∧ (line.answer 2).DeniesOwner)

/-- What a search for an object results in, told from the answers alone. -/
structure DiscoveryLaw (line : Line) (service path : String) (interface : Option String)
    (result : Except BusError RemoteObject) : Prop where
  found : ∀ object, result = .ok object ↔
    ∃ owner, line.NamesOwner owner ∧ object = { service, destination := owner, path, interface }
  absent : ∀ other, result = .error (.serviceUnknown other) ↔ other = service ∧ line.LacksOwner
  broken : (∃ fault, result = .error (.transport fault)) ↔
    (∀ owner, ¬ line.NamesOwner owner) ∧ ¬ line.LacksOwner
  /-- There is no fourth way to end. -/
  ends : (∃ object, result = .ok object) ∨ result = .error (.serviceUnknown service) ∨
    ∃ fault, result = .error (.transport fault)

/-! ### The conditions in terms of what the answers come to -/

theorem Answer.ownership_eq_error {answer : Answer} {error : BusError}
    (failed : answer.ownership = .error error) : ∃ fault, error = .transport fault := by
  cases answer with
  | returned frame =>
      cases text : readText frame with
      | ok owner => simp [Answer.ownership, text] at failed
      | error fault =>
          simp only [Answer.ownership, text, Except.error.injEq] at failed
          exact ⟨fault, failed.symm⟩
  | failed name frame =>
      by_cases denied : name = StandardError.nameHasNoOwner.name
      · simp [Answer.ownership, denied] at failed
      · simp only [Answer.ownership, denied, if_false, Except.error.injEq] at failed
        exact ⟨_, failed.symm⟩
  | hungUp =>
      simp only [Answer.ownership, Except.error.injEq] at failed
      exact ⟨_, failed.symm⟩

theorem Answer.activation_eq_unknown_iff (answer : Answer) (service : String) :
    answer.activation service = .error (.serviceUnknown service) ↔
      ∃ name frame, answer = .failed name frame := by
  cases answer with
  | returned frame => cases number : readNumber frame <;> simp [Answer.activation, number]
  | failed name frame => simp [Answer.activation]
  | hungUp => simp [Answer.activation]

theorem Answer.activation_eq_error {answer : Answer} {service : String} {error : BusError}
    (failed : answer.activation service = .error error) :
    error = .serviceUnknown service ∨ ∃ fault, error = .transport fault := by
  cases answer with
  | returned frame =>
      cases number : readNumber frame with
      | ok count => simp [Answer.activation, number] at failed
      | error fault =>
          simp only [Answer.activation, number, Except.error.injEq] at failed
          exact Or.inr ⟨fault, failed.symm⟩
  | failed name frame =>
      simp only [Answer.activation, Except.error.injEq] at failed
      exact Or.inl failed.symm
  | hungUp =>
      simp only [Answer.activation, Except.error.injEq] at failed
      exact Or.inr ⟨_, failed.symm⟩

variable {line : Line}

theorem Line.namesOwner_iff (service owner : String) :
    line.NamesOwner owner ↔ (line.answer 0).ownership = .ok (some owner) ∨
      (line.answer 0).ownership = .ok none ∧ (line.answer 1).activation service = .ok () ∧
        (line.answer 2).ownership = .ok (some owner) := by
  unfold Line.NamesOwner
  rw [Answer.ownership_eq_some_iff, Answer.ownership_eq_none_iff, Answer.activation_eq_ok_iff,
    Answer.ownership_eq_some_iff]

theorem Line.lacksOwner_iff (service : String) :
    line.LacksOwner ↔ (line.answer 0).ownership = .ok none ∧
      ((line.answer 1).activation service = .error (.serviceUnknown service) ∨
        (line.answer 1).activation service = .ok () ∧ (line.answer 2).ownership = .ok none) := by
  unfold Line.LacksOwner
  rw [Answer.ownership_eq_none_iff, Answer.ownership_eq_none_iff, Answer.activation_eq_ok_iff,
    Answer.activation_eq_unknown_iff]

/-! ### The law -/

variable {service path : String} {interface : Option String} {asked : List Request}
  {result : Except BusError String}

/-- A search for the owner of a well-known service ends in one of three ways, and the conditions of
the other two fail then. -/
theorem Resolves.decided (search : Resolves line service asked result)
    (named : isUniqueName service = false) :
    (∃ owner, result = .ok owner ∧ (∀ other, line.NamesOwner other ↔ other = owner) ∧
        ¬ line.LacksOwner) ∨
      (result = .error (.serviceUnknown service) ∧ (∀ other, ¬ line.NamesOwner other) ∧
        line.LacksOwner) ∨
      (∃ fault, result = .error (.transport fault)) ∧ (∀ other, ¬ line.NamesOwner other) ∧
        ¬ line.LacksOwner := by
  simp only [Line.namesOwner_iff service, Line.lacksOwner_iff service]
  cases search with
  | unique isUnique => simp [named] at isUnique
  | running _ owned => simp [owned, eq_comm]
  | unanswered _ failed =>
      obtain ⟨fault, rfl⟩ := Answer.ownership_eq_error failed
      simp [failed]
  | notStarted _ unowned failed =>
      rcases Answer.activation_eq_error failed with rfl | ⟨fault, rfl⟩
      · simp [unowned, failed]
      · simp [unowned, failed]
  | started _ unowned active owned => simp [unowned, active, owned, eq_comm]
  | lost _ unowned active failed =>
      obtain ⟨fault, rfl⟩ := Answer.ownership_eq_error failed
      simp [unowned, active, failed]
  | gone _ unowned active absent => simp [unowned, active, absent]

theorem Resolves.discoveryLaw (search : Resolves line service asked result)
    (named : isUniqueName service = false) :
    DiscoveryLaw line service path interface
      (result.map fun destination => { service, destination, path, interface }) := by
  rcases search.decided named with ⟨owner, rfl, names, owned⟩ | ⟨rfl, unnamed, lacks⟩ |
    ⟨⟨fault, rfl⟩, unnamed, owned⟩
  · constructor
    · intro object
      simp [Except.map, names, eq_comm]
    · simp [Except.map, owned]
    · simp [Except.map, names]
    · exact Or.inl ⟨_, rfl⟩
  · constructor
    · simp [Except.map, unnamed]
    · intro other
      simp [Except.map, lacks, eq_comm]
    · simp [Except.map, lacks]
    · exact Or.inr (Or.inl rfl)
  · constructor
    · simp [Except.map, unnamed]
    · simp [Except.map, owned]
    · simp [Except.map, unnamed, owned]
    · exact Or.inr (Or.inr ⟨fault, rfl⟩)

theorem targetNames_valid (wellKnown : Name.checkWellKnown service = .ok ())
    (located : Name.check .objectPath path = .ok ())
    (addressed : ∀ name ∈ interface, Name.check .interface name = .ok ()) :
    validateAll (targetNames service path interface) = .ok () := by
  rw [validateAll_eq_ok_iff]
  intro name member
  simp only [targetNames, List.mem_cons, List.mem_map, Option.mem_toList] at member
  rcases member with rfl | rfl | ⟨text, present, rfl⟩
  · exact (Name.check_service_eq_ok_iff _).mpr (Name.checkBus_of_checkWellKnown wellKnown)
  · exact located
  · exact addressed text present

theorem isUniqueName_of_checkWellKnown (wellKnown : Name.checkWellKnown service = .ok ()) :
    isUniqueName service = false := by
  have noColon := Name.colon_not_mem_of_checkWellKnown wellKnown
  rw [isUniqueName, beq_eq_false_iff_ne]
  intro first
  exact noColon (List.mem_of_head? first)

/-- On this line the service has to be started, and then belongs to `:1.7`. -/
def startingSession : Session where
  line := {
    state := {
      answers := [.failed StandardError.nameHasNoOwner.name default,
        .returned (Frame.ofNumber 2), .returned (Frame.ofText ":1.7")]
      afterwards := .hungUp } }

/-- The object is bound to the owner that the last answer names. -/
example :
    (startingSession.run (RemoteObject.find "org.ganesha.nfsd" "/org/ganesha/nfsd/CBSIM" none)).1 =
      .ok
        { service := "org.ganesha.nfsd", destination := ":1.7"
          path := "/org/ganesha/nfsd/CBSIM", interface := none } := by
  rfl

end SessionProbe.Bus
