import SessionProbe.Bus.Connection

set_option autoImplicit false

/-!
Names hold no zero, so that a request whose texts are names can always be sent.
-/

namespace SessionProbe

namespace Name

/-- A name between dots holds dots and what its alphabet allows, and nothing else. -/
theorem Alphabet.mem_of_check {alphabet : Alphabet} {atStart dotted : Bool} {text : List Char}
    (accepted : alphabet.check atStart dotted text = .ok ()) :
    ∀ c ∈ text, c = '.' ∨ alphabet.allows c = true := by
  induction text generalizing atStart dotted with
  | nil =>
      intro c member
      cases member
  | cons head rest ih =>
      simp only [Alphabet.check] at accepted
      intro c member
      by_cases dot : head = '.'
      · rw [if_pos dot] at accepted
        split at accepted
        · cases accepted
        · rcases List.mem_cons.mp member with same | later
          · exact Or.inl (same.trans dot)
          · exact ih accepted c later
      · rw [if_neg dot] at accepted
        split at accepted
        · cases accepted
        · split at accepted
          · rename_i allowed
            rcases List.mem_cons.mp member with same | later
            · exact Or.inr (same ▸ allowed)
            · exact ih accepted c later
          · cases accepted

private theorem zero_not_mem_of_check {digitFirst atStart dotted : Bool} {text : List Char}
    (accepted : Alphabet.check ⟨isHyphenatedChar, digitFirst⟩ atStart dotted text = .ok ()) :
    '\x00' ∉ text := by
  intro member
  rcases Alphabet.mem_of_check accepted _ member with dot | allowed
  · exact absurd dot (by decide)
  · have hyphenated : isHyphenatedChar '\x00' = true := allowed
    exact absurd hyphenated (by decide)

theorem zero_not_mem_of_checkUnique {name : String} (accepted : checkUnique name = .ok ()) :
    '\x00' ∉ name.toList := by
  unfold checkUnique at accepted
  split at accepted
  · cases accepted
  · split at accepted
    · cases accepted
    · split at accepted
      · rename_i isDaemon
        rw [isDaemon]
        decide
      · split at accepted
        · rename_i rest shape
          rw [shape]
          intro member
          rcases List.mem_cons.mp member with colon | later
          · exact absurd colon (by decide)
          · exact zero_not_mem_of_check accepted later
        · cases accepted

theorem check_of_checkWellKnown {name : String} (accepted : checkWellKnown name = .ok ()) :
    Alphabet.check ⟨isHyphenatedChar, false⟩ true false name.toList = .ok () := by
  unfold checkWellKnown at accepted
  split at accepted
  · cases accepted
  · split at accepted
    · cases accepted
    · split at accepted
      · cases accepted
      · exact accepted

theorem zero_not_mem_of_checkWellKnown {name : String} (accepted : checkWellKnown name = .ok ()) :
    '\x00' ∉ name.toList :=
  zero_not_mem_of_check (check_of_checkWellKnown accepted)

theorem colon_not_mem_of_checkWellKnown {name : String} (accepted : checkWellKnown name = .ok ()) :
    ':' ∉ name.toList := by
  intro member
  rcases Alphabet.mem_of_check (check_of_checkWellKnown accepted) _ member with dot | allowed
  · exact absurd dot (by decide)
  · have hyphenated : isHyphenatedChar ':' = true := allowed
    exact absurd hyphenated (by decide)

theorem checkBus_of_checkWellKnown {name : String} (accepted : checkWellKnown name = .ok ()) :
    checkBus name = .ok () := by
  unfold checkBus
  cases checkUnique name with
  | ok nothing => rfl
  | error fault => rw [accepted]

theorem zero_not_mem_of_checkBus {name : String} (accepted : checkBus name = .ok ()) :
    '\x00' ∉ name.toList := by
  unfold checkBus at accepted
  split at accepted
  · rename_i unique
    exact zero_not_mem_of_checkUnique unique
  · split at accepted
    · rename_i wellKnown
      exact zero_not_mem_of_checkWellKnown wellKnown
    · cases accepted

theorem checkBus_daemon : checkBus daemon = .ok () := by
  rfl

theorem check_service_eq_ok_iff (name : String) :
    check .service name = .ok () ↔ checkBus name = .ok () := by
  change (checkBus name).mapError Reason.service = .ok () ↔ _
  cases checkBus name with
  | ok nothing => exact ⟨fun _ => rfl, fun _ => rfl⟩
  | error fault =>
      constructor
      · intro impossible
        cases impossible
      · intro impossible
        cases impossible

end Name

namespace Bus

theorem validate_eq_ok_iff (kind : Name.Kind) (value : String) :
    validate kind value = .ok () ↔ Name.check kind value = .ok () := by
  cases checked : Name.check kind value <;> simp [validate, checked]

/-- A request is sent just when its destination is a bus name and no text in it holds a zero. -/
theorem Request.problem?_eq_none_iff (request : Request) :
    request.problem? = none ↔
      Name.checkBus request.destination = .ok () ∧
        ∀ text, Argument.text text ∈ request.arguments → '\x00' ∉ text.toList := by
  unfold Request.problem?
  cases Name.checkBus request.destination with
  | error fault => simp
  | ok nothing =>
      simp only [true_and]
      constructor
      · intro sent text member holds
        rw [if_pos] at sent
        · cases sent
        · exact List.any_eq_true.mpr ⟨_, member, by simpa using holds⟩
      · intro clean
        rw [if_neg]
        intro found
        obtain ⟨argument, member, holds⟩ := List.any_eq_true.mp found
        cases argument with
        | text value => exact clean value member (by simpa using holds)
        | number value => cases holds

theorem Daemon.request_sendable {service : String} (valid : Name.checkBus service = .ok ())
    (member : String) {arguments : List Argument}
    (about : ∀ text, Argument.text text ∈ arguments → text = service) :
    (Daemon.request member arguments).problem? = none := by
  rw [Request.problem?_eq_none_iff]
  refine ⟨Name.checkBus_daemon, ?_⟩
  intro text present
  rw [about text present]
  exact Name.zero_not_mem_of_checkBus valid

end Bus

end SessionProbe
