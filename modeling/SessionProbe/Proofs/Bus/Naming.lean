import SessionProbe.Bus.Resolver
import SessionProbe.Proofs.Bus.RemoteObject
import SessionProbe.Proofs.Name.Acceptance

set_option autoImplicit false

/-!
Names that are accepted on the bus. Without an open end, a name is accepted just when its grammar
describes it, and the colon in front of it tells whether its owner has to be asked for.
-/

namespace SessionProbe.Bus

/-- Whether the owner of a service is told without a question, whoever would answer it. -/
def IsOwnOwner (service : String) : Prop :=
  ∀ {σ : Type} (resolver : Resolver σ), resolver.owner service = pure service

theorem isOwnOwner_iff (service : String) :
    IsOwnOwner service ↔ isUniqueName service = true := by
  constructor
  · intro owned
    by_contra named
    -- A resolver that answers nothing is asked, and its refusal shows.
    let refusing : Resolver Unit :=
      { nameOwner := fun _ => throw (.reply ""), startService := fun _ => throw (.reply "") }
    have asked : refusing.owner service = throw (.reply "") := by
      unfold Resolver.owner
      rw [if_neg named]
      rfl
    have both := congrFun ((owned refusing).symm.trans asked) { state := () }
    cases both
  · intro isUnique σ resolver
    unfold Resolver.owner
    rw [if_pos isUnique]

theorem isUniqueName_iff (service : String) :
    isUniqueName service = true ↔ ∃ rest, service.toList = ':' :: rest := by
  unfold isUniqueName
  cases service.toList <;> simp

theorem unique_of_admits {service : String} (accepted : Name.Kind.service.Admits service) :
    isUniqueName service = true ↔
      ∃ rest, service.toList = ':' :: rest ∧ Name.uniqueElement.Loose true rest := by
  rw [isUniqueName_iff]
  constructor
  · rintro ⟨rest, shape⟩
    obtain ⟨_, unique | ⟨_, wellKnown⟩⟩ := accepted
    · exact unique
    · rw [shape] at wellKnown
      exact absurd wellKnown Name.colon_ne_of_loose
  · rintro ⟨rest, shape, _⟩
    exact ⟨rest, shape⟩

/-- A name without an open end is accepted just when the grammar of its kind describes it; one with
an open end is never described, and accepted if no other fault shows. What is refused is reported
with its kind and as it is. The owner of an accepted service is known without a question just when
the service has the form of a unique name. -/
theorem validate_grammar (kind : Name.Kind) (name : String) :
    (¬kind.HasOpenEnd name → (validate kind name = .ok () ↔ kind.Describes name)) ∧
    (kind.HasOpenEnd name →
      ¬kind.Describes name ∧ (validate kind name = .ok () ↔ kind.Admits name)) ∧
    (∀ error, validate kind name = .error error →
      ∃ reason, error = .invalidName kind name reason) ∧
    (kind = .service → validate kind name = .ok () →
      (IsOwnOwner name ↔
        ∃ rest, name.toList = ':' :: rest ∧ Name.uniqueElement.Loose true rest) ∧
      (¬kind.HasOpenEnd name →
        (IsOwnOwner name ↔
          ∃ rest, name.toList = ':' :: rest ∧ Name.uniqueElement.Dotted rest))) := by
  have accepts : validate kind name = .ok () ↔ kind.Admits name :=
    (validate_eq_ok_iff kind name).trans (Name.check_eq_ok_iff kind name)
  have describes := kind.describes_iff name
  refine ⟨?_, ?_, ?_, ?_⟩
  · intro closed
    rw [accepts, describes, and_iff_left closed]
  · intro openEnd
    exact ⟨fun described => (describes.mp described).2 openEnd, accepts⟩
  · intro error refused
    obtain ⟨reason, _, same⟩ := validate_eq_error refused
    exact ⟨reason.message, same⟩
  · rintro rfl accepted
    have own : IsOwnOwner name ↔
        ∃ rest, name.toList = ':' :: rest ∧ Name.uniqueElement.Loose true rest :=
      (isOwnOwner_iff name).trans (unique_of_admits (accepts.mp accepted))
    refine ⟨own, fun closed => ?_⟩
    rw [own, Name.unique_dotted_iff, and_iff_left closed]

/-- A dot at the end of an interface name passes, although no element follows it. -/
theorem trailingDot_accepted :
    ¬∀ (kind : Name.Kind) (name : String), validate kind name = .ok () ↔ kind.Describes name := by
  intro claim
  have accepted : validate .interface "org.ganesha." = .ok () := by decide
  have described := (claim .interface "org.ganesha.").mp accepted
  have openEnd : Name.Kind.interface.HasOpenEnd "org.ganesha." := by
    change "org.ganesha.".toList.getLast? = some '.'
    decide
  exact ((Name.Kind.interface.describes_iff _).mp described).2 openEnd

end SessionProbe.Bus
