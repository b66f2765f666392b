import SessionProbe.Proofs.Name.ObjectPath

set_option autoImplicit false

/-!
Which names the checks accept. `check_eq_ok_iff` tells it for every kind, and `Kind.describes_iff`
that the grammar describes those without an open end.
-/

namespace SessionProbe.Name

/-! ### The alphabets of names -/

theorem isHyphenatedChar_iff (c : Char) :
    isHyphenatedChar c = true ↔ IsLetter c ∨ IsDigit c ∨ c = '_' ∨ c = '-' := by
  simp [isHyphenatedChar, isWordChar_iff, or_assoc]

theorem IsLetter.not_isDigit {c : Char} (letter : IsLetter c) : c.isDigit = false := by
  rw [← Bool.not_eq_true, isDigit_iff]
  simp only [IsLetter, IsDigit, Char.le_def, UInt32.le_iff_toNat_le] at letter ⊢
  have bounds : 'A'.val.toNat = 65 ∧ 'a'.val.toNat = 97 ∧ '9'.val.toNat = 57 := by decide
  omega

theorem form_unique : Alphabet.form ⟨isHyphenatedChar, true⟩ = uniqueElement := by
  simp [Alphabet.form, uniqueElement, isHyphenatedChar_iff]

theorem first_of_not_digit (mark : Char → Prop) (marks : ∀ c, mark c → c.isDigit = false)
    (c : Char) :
    (IsLetter c ∨ IsDigit c ∨ mark c) ∧ c.isDigit = false ↔ IsLetter c ∨ mark c := by
  constructor
  · rintro ⟨letter | digit | isMark, notDigit⟩
    · exact Or.inl letter
    · rw [(isDigit_iff c).mpr digit] at notDigit
      cases notDigit
    · exact Or.inr isMark
  · rintro (letter | isMark)
    · exact ⟨Or.inl letter, letter.not_isDigit⟩
    · exact ⟨Or.inr (Or.inr isMark), marks c isMark⟩

theorem form_wellKnown : Alphabet.form ⟨isHyphenatedChar, false⟩ = wellKnownElement := by
  have first (c : Char) := first_of_not_digit (fun c => c = '_' ∨ c = '-')
    (by rintro c (rfl | rfl) <;> rfl) c
  simp [Alphabet.form, wellKnownElement, isHyphenatedChar_iff, first]

theorem form_interface : Alphabet.form ⟨isWordChar, false⟩ = memberElement := by
  have first (c : Char) := first_of_not_digit (fun c => c = '_') (by rintro c rfl; rfl) c
  simp [Alphabet.form, memberElement, isWordChar_iff, first]

/-! ### The kinds of names -/

theorem ite_lengths_eq_ok_iff {least size greatest : Nat} {short long : Fault}
    {check : Except Fault Unit} :
    (if size < least then .error short else if greatest < size then .error long else check) =
        .ok () ↔
      least ≤ size ∧ size ≤ greatest ∧ check = .ok () := by
  by_cases tooShort : size < least
  · rw [if_pos tooShort]
    exact iff_of_false (by rintro ⟨⟩) (fun accepted => by omega)
  · rw [if_neg tooShort]
    by_cases tooLong : greatest < size
    · rw [if_pos tooLong]
      exact iff_of_false (by rintro ⟨⟩) (fun accepted => by omega)
    · rw [if_neg tooLong]
      simp [Nat.not_lt.mp tooShort, Nat.not_lt.mp tooLong]

theorem checkUnique_eq_ok_iff (name : String) :
    checkUnique name = .ok () ↔
      Text.Utf8.size name ≤ 255 ∧
        (name = daemon ∨ ∃ rest, name.toList = ':' :: rest ∧ uniqueElement.Loose true rest) := by
  unfold checkUnique
  by_cases empty : name.isEmpty = true
  · have nothing := String.isEmpty_iff.mp empty
    subst nothing
    simp [daemon]
  · rw [if_neg empty]
    by_cases long : maximumLength < Text.Utf8.size name
    · rw [if_pos long]
      simp only [reduceCtorEq, false_iff, not_and]
      intro short
      exact absurd long (Nat.not_lt.mpr short)
    · rw [if_neg long]
      have short : Text.Utf8.size name ≤ 255 := Nat.not_lt.mp long
      by_cases isDaemon : name = daemon
      · rw [if_pos isDaemon]
        exact iff_of_true rfl ⟨short, Or.inl isDaemon⟩
      · rw [if_neg isDaemon, ← form_unique]
        simp only [short, isDaemon, true_and, false_or]
        split
        · rename_i rest shape
          rw [Alphabet.check_eq_ok_iff rfl (fun _ => rfl)]
          simp [shape]
        · rename_i noColon
          simp only [reduceCtorEq, false_iff]
          rintro ⟨rest, shape, _⟩
          exact noColon rest shape

theorem checkWellKnown_eq_ok_iff (name : String) :
    checkWellKnown name = .ok () ↔
      3 ≤ Text.Utf8.size name ∧ Text.Utf8.size name ≤ 255 ∧
        wellKnownElement.Loose false name.toList := by
  have scanned : Alphabet.check ⟨isHyphenatedChar, false⟩ true false name.toList = .ok () ↔
      wellKnownElement.Loose false name.toList := by
    rw [← form_wellKnown]
    exact Alphabet.check_eq_ok_iff rfl (fun impossible => absurd impossible (by decide))
  unfold checkWellKnown
  by_cases empty : name.isEmpty = true
  · have nothing := String.isEmpty_iff.mp empty
    subst nothing
    exact iff_of_false (by rintro ⟨⟩) (fun accepted => absurd accepted.1 (by decide))
  · rw [if_neg empty, ite_lengths_eq_ok_iff, scanned]
    rfl

theorem checkInterface_eq_ok_iff (name : String) :
    checkInterface name = .ok () ↔ Kind.interface.Admits name := by
  have scanned : Alphabet.check ⟨isWordChar, false⟩ true false name.toList = .ok () ↔
      memberElement.Loose false name.toList := by
    rw [← form_interface]
    exact Alphabet.check_eq_ok_iff rfl (fun impossible => absurd impossible (by decide))
  unfold checkInterface
  rw [ite_lengths_eq_ok_iff, scanned]
  rfl

/-- A bus name has one of the two forms; that of the daemon is a well-known name anyway. -/
theorem checkBus_eq_ok_iff (name : String) :
    checkBus name = .ok () ↔ Kind.service.Admits name := by
  have split : checkBus name = .ok () ↔ checkUnique name = .ok () ∨ checkWellKnown name = .ok () := by
    unfold checkBus
    cases checkUnique name with
    | ok nothing => simp
    | error fault => cases checkWellKnown name <;> simp
  have isWellKnown : name = daemon → checkWellKnown name = .ok () := by
    rintro rfl
    rfl
  rw [split, checkUnique_eq_ok_iff, Kind.Admits]
  constructor
  · rintro (⟨short, rfl | unique⟩ | wellKnown)
    · obtain ⟨long, _, loose⟩ := (checkWellKnown_eq_ok_iff _).mp (isWellKnown rfl)
      exact ⟨short, Or.inr ⟨long, loose⟩⟩
    · exact ⟨short, Or.inl unique⟩
    · obtain ⟨long, short, loose⟩ := (checkWellKnown_eq_ok_iff _).mp wellKnown
      exact ⟨short, Or.inr ⟨long, loose⟩⟩
  · rintro ⟨short, unique | ⟨long, loose⟩⟩
    · exact Or.inl ⟨short, Or.inr unique⟩
    · exact Or.inr ((checkWellKnown_eq_ok_iff _).mpr ⟨long, short, loose⟩)

theorem checkMember_eq_ok_iff (name : String) :
    checkMember name = .ok () ↔ Kind.method.Describes name := by
  have empty_iff : name.isEmpty = true ↔ Text.Utf8.size name < 1 := by
    rw [String.isEmpty_iff]
    constructor
    · rintro rfl
      decide
    · intro none
      have chars := Text.Utf8.length_le_size name
      exact String.toList_eq_nil_iff.mp (List.length_eq_zero_iff.mp (by omega))
  unfold checkMember
  simp only [empty_iff]
  rw [ite_lengths_eq_ok_iff, Kind.Describes, ← form_interface]
  refine and_congr_right fun some => and_congr_right fun _ => ?_
  cases chars : name.toList with
  | nil =>
      rw [String.toList_eq_nil_iff.mp chars] at some
      exact absurd some (by decide)
  | cons first rest =>
      dsimp only [ElementForm.Admits, Alphabet.form]
      cases digit : first.isDigit with
      | true => simp
      | false =>
          cases found : (first :: rest).find? (fun c => !isWordChar c) with
          | some c =>
              -- The character found stands in front or behind.
              have strange : isWordChar c = false := by simpa using List.find?_some found
              refine iff_of_false (by rintro ⟨⟩) ?_
              rintro ⟨⟨word, _⟩, words⟩
              rcases List.mem_cons.mp (List.mem_of_find?_eq_some found) with rfl | later
              · rw [word] at strange
                cases strange
              · rw [words c later] at strange
                cases strange
          | none =>
              have words : ∀ c ∈ first :: rest, isWordChar c = true := by
                simpa using List.find?_eq_none.mp found
              obtain ⟨word, others⟩ := List.forall_mem_cons.mp words
              exact iff_of_true rfl ⟨⟨word, Or.inr rfl⟩, others⟩

/-! ### All kinds -/

/-- The checks accept the names that `Kind.Admits` tells. -/
theorem check_eq_ok_iff (kind : Kind) (name : String) :
    check kind name = .ok () ↔ kind.Admits name := by
  have mapped {ε : Type} (outcome : Except ε Unit) (reason : ε → Reason) :
      outcome.mapError reason = .ok () ↔ outcome = .ok () := by
    cases outcome <;> simp [Except.mapError]
  cases kind with
  | service => exact (mapped _ _).trans (checkBus_eq_ok_iff name)
  | objectPath => exact (mapped _ _).trans (checkPath_eq_ok_iff name)
  | interface => exact (mapped _ _).trans (checkInterface_eq_ok_iff name)
  | method => exact (mapped _ _).trans (checkMember_eq_ok_iff name)

theorem unique_dotted_iff (name : String) :
    (∃ rest, name.toList = ':' :: rest ∧ uniqueElement.Dotted rest) ↔
      (∃ rest, name.toList = ':' :: rest ∧ uniqueElement.Loose true rest) ∧
        ¬Kind.service.HasOpenEnd name := by
  rw [← form_unique]
  have dotted_iff (rest : List Char) (shape : name.toList = ':' :: rest) :
      (Alphabet.form ⟨isHyphenatedChar, true⟩).Dotted rest ↔
        (Alphabet.form ⟨isHyphenatedChar, true⟩).Loose true rest ∧
          ¬Kind.service.HasOpenEnd name := by
    rw [Alphabet.dotted_iff rfl true, ← not_or, Kind.HasOpenEnd, shape]
    cases rest with
    | nil => simp
    | cons c rest => simp [List.getLast?_cons_cons]
  constructor
  · rintro ⟨rest, shape, dotted⟩
    obtain ⟨loose, closed⟩ := (dotted_iff rest shape).mp dotted
    exact ⟨⟨rest, shape, loose⟩, closed⟩
  · rintro ⟨⟨rest, shape, loose⟩, closed⟩
    exact ⟨rest, shape, (dotted_iff rest shape).mpr ⟨loose, closed⟩⟩

theorem colon_ne_of_loose {rest : List Char} : ¬wellKnownElement.Loose false (':' :: rest) := by
  intro loose
  rw [← form_wellKnown] at loose
  exact absurd loose.first.1 (by decide)

theorem wellKnown_dotted_iff (name : String) :
    wellKnownElement.Dotted name.toList ↔
      (3 ≤ Text.Utf8.size name ∧ wellKnownElement.Loose false name.toList) ∧
        ¬Kind.service.HasOpenEnd name := by
  have ends (loose : wellKnownElement.Loose false name.toList) :
      Kind.service.HasOpenEnd name ↔ name.toList.getLast? = some '.' := by
    refine or_iff_left ?_
    rintro ⟨rest, shape⟩
    rw [shape] at loose
    exact colon_ne_of_loose loose
  constructor
  · intro dotted
    have long := dotted.three_le_size
    rw [← form_wellKnown, Alphabet.dotted_iff rfl false, form_wellKnown] at dotted
    obtain ⟨loose, back, _⟩ := dotted
    exact ⟨⟨long, loose⟩, (ends loose).not.mpr back⟩
  · rintro ⟨⟨_, loose⟩, closed⟩
    have back := (ends loose).not.mp closed
    rw [← form_wellKnown] at loose ⊢
    exact (Alphabet.dotted_iff rfl _).mpr ⟨loose, back, Alphabet.head?_ne_of_loose rfl loose⟩

theorem interface_describes_iff (name : String) :
    Kind.interface.Describes name ↔
      Kind.interface.Admits name ∧ ¬Kind.interface.HasOpenEnd name := by
  rw [Kind.Describes, Kind.Admits, Kind.HasOpenEnd]
  constructor
  · rintro ⟨short, dotted⟩
    have long := dotted.three_le_size
    rw [← form_interface, Alphabet.dotted_iff rfl false, form_interface] at dotted
    exact ⟨⟨long, short, dotted.1⟩, dotted.2.1⟩
  · rintro ⟨⟨_, short, loose⟩, back⟩
    rw [← form_interface] at loose ⊢
    exact ⟨short, (Alphabet.dotted_iff rfl _).mpr
      ⟨loose, back, Alphabet.head?_ne_of_loose rfl loose⟩⟩

/-- What the grammar describes is what is accepted without an open end. -/
theorem Kind.describes_iff (kind : Kind) (name : String) :
    kind.Describes name ↔ kind.Admits name ∧ ¬kind.HasOpenEnd name := by
  cases kind with
  | service =>
      rw [Kind.Describes, Kind.Admits, unique_dotted_iff, wellKnown_dotted_iff, ← or_and_right,
        and_assoc]
  | objectPath => exact (and_iff_left not_false).symm
  | interface => exact interface_describes_iff name
  | method => exact (and_iff_left not_false).symm

end SessionProbe.Name
