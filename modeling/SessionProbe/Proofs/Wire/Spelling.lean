import SessionProbe.Proofs.Wire.Signature

set_option autoImplicit false

/-!
Signatures spelled by what was read from them. A text that is read as types is the signature of
these types, character by character: `Ty.signatures_of_ofSignature` undoes the reading, as
`Ty.ofSignature_signatures` undoes the writing. Each of the types is read again from its own
signature, although not every type that can be read is complete.
-/

namespace SessionProbe.Wire

theorem bind_eq_ok {ε α β : Type} {outcome : Except ε α} {next : α → Except ε β} {value : β}
    (whole : (outcome >>= next) = .ok value) :
    ∃ first, outcome = .ok first ∧ next first = .ok value := by
  cases outcome with
  | ok first => exact ⟨first, rfl, whole⟩
  | error _ => cases whole

theorem Basic.code_of_ofCode? {c : Char} {kind : Basic} (known : Basic.ofCode? c = some kind) :
    kind.code = c := by
  unfold Basic.ofCode? at known
  split at known <;> cases known <;> rfl

/-! ### One complete type -/

/-- What a reading of one type takes away from the front of a text is the signature of the type, and
the type reads back. -/
def Ty.Spells (fuel : Nat) : Prop :=
  ∀ {text : List Char} {ty : Ty} {rest : List Char},
    Ty.readOne fuel text = .ok (ty, rest) →
      text = ty.signature.toList ++ rest ∧ ty.ReadsBack

/-- What a reading of fields takes away is their signatures and the parenthesis behind them. -/
def Ty.SpellsFields (fuel : Nat) : Prop :=
  ∀ {text : List Char} {fields : List Ty} {rest : List Char},
    Ty.readFields fuel text = .ok (fields, rest) →
      text = (Ty.signatures fields).toList ++ ')' :: rest ∧ ∀ field ∈ fields, field.ReadsBack

section Steps

variable {fuel : Nat}

theorem Ty.readOne_array_eq_ok {text rest : List Char} {ty : Ty}
    (read : Ty.readOne (fuel + 1) ('a' :: text) = .ok (ty, rest)) :
    ∃ element, Ty.readOne fuel text = .ok (element, rest) ∧ Ty.arrayOf element = ty := by
  change (if _ then _ else _) = _ at read
  split at read
  · cases read
  · obtain ⟨⟨element, after⟩, first, whole⟩ := bind_eq_ok read
    cases whole
    exact ⟨element, first, rfl⟩

theorem Ty.readOne_struct_eq_ok {text rest : List Char} {ty : Ty}
    (read : Ty.readOne (fuel + 1) ('(' :: text) = .ok (ty, rest)) :
    ∃ fields, Ty.readFields fuel text = .ok (fields, rest) ∧ fields ≠ [] ∧ .struct fields = ty := by
  change (if _ then _ else _) = _ at read
  split at read
  · cases read
  · obtain ⟨⟨fields, after⟩, first, whole⟩ := bind_eq_ok read
    dsimp only at whole
    split at whole
    · cases whole
    · rename_i some
      cases whole
      refine ⟨fields, first, ?_, rfl⟩
      rintro rfl
      exact some rfl

/-- The length of the key is what the text gets shorter by. -/
theorem Ty.readOne_entry_eq_ok {text rest : List Char} {ty : Ty}
    (read : Ty.readOne (fuel + 1) ('\x7b' :: text) = .ok (ty, rest)) :
    ∃ key afterKey value, Ty.readOne fuel text = .ok (key, afterKey) ∧
      text.length - afterKey.length = 1 ∧
      Ty.readOne fuel afterKey = .ok (value, '\x7d' :: rest) ∧ .entry key value = ty := by
  change (if _ then _ else _) = _ at read
  split at read
  · cases read
  · obtain ⟨⟨key, afterKey⟩, first, behindKey⟩ := bind_eq_ok read
    dsimp only at behindKey
    split at behindKey
    · cases behindKey
    · rename_i single
      obtain ⟨⟨value, afterValue⟩, second, whole⟩ := bind_eq_ok behindKey
      dsimp only at whole
      split at whole
      · cases whole
      · cases whole
        exact ⟨key, afterKey, value, first, Decidable.not_not.mp single, second, rfl⟩
      · cases whole

theorem Ty.spells_array (inner : Ty.Spells fuel) {text rest : List Char} {ty : Ty}
    (read : Ty.readOne (fuel + 1) ('a' :: text) = .ok (ty, rest)) :
    'a' :: text = ty.signature.toList ++ rest ∧ ty.ReadsBack := by
  obtain ⟨element, first, rfl⟩ := Ty.readOne_array_eq_ok read
  obtain ⟨spelled, back⟩ := inner first
  constructor
  · rw [Ty.toList_arrayOf, List.cons_append, ← spelled]
  · exact Ty.readsBack_arrayOf back

theorem Ty.spells_struct (inner : Ty.SpellsFields fuel) {text rest : List Char} {ty : Ty}
    (read : Ty.readOne (fuel + 1) ('(' :: text) = .ok (ty, rest)) :
    '(' :: text = ty.signature.toList ++ rest ∧ ty.ReadsBack := by
  obtain ⟨fields, first, some, rfl⟩ := Ty.readOne_struct_eq_ok read
  obtain ⟨spelled, back⟩ := inner first
  constructor
  · rw [Ty.toList_struct, spelled]
    simp only [List.cons_append, List.append_assoc, List.nil_append]
  · exact Ty.readsBack_struct some back

theorem Ty.spells_entry (inner : Ty.Spells fuel) {text rest : List Char} {ty : Ty}
    (read : Ty.readOne (fuel + 1) ('\x7b' :: text) = .ok (ty, rest)) :
    '\x7b' :: text = ty.signature.toList ++ rest ∧ ty.ReadsBack := by
  obtain ⟨key, afterKey, value, first, single, second, rfl⟩ := Ty.readOne_entry_eq_ok read
  obtain ⟨spelledKey, backKey⟩ := inner first
  obtain ⟨spelledValue, backValue⟩ := inner second
  constructor
  · rw [Ty.toList_entry, spelledKey, spelledValue]
    simp only [List.cons_append, List.append_assoc, List.nil_append]
  · apply Ty.readsBack_entry backKey _ backValue
    rw [spelledKey, List.length_append] at single
    omega

theorem Ty.spells_succ (inner : Ty.Spells fuel) (fields : Ty.SpellsFields fuel) :
    Ty.Spells (fuel + 1) := by
  intro text ty rest read
  cases text with
  | nil => cases read
  | cons c text =>
      cases known : Basic.ofCode? c with
      | some kind =>
          simp only [Ty.readOne, known] at read
          cases read
          rw [Ty.toList_basic, Basic.code_of_ofCode? known]
          exact ⟨rfl, Ty.readsBack_basic kind⟩
      | none =>
          by_cases isVariant : c = 'v'
          · subst isVariant
            rw [Ty.readOne_variant] at read
            cases read
            rw [Ty.toList_variant]
            exact ⟨rfl, Ty.readsBack_variant⟩
          · by_cases isArray : c = 'a'
            · subst isArray
              exact Ty.spells_array inner read
            · by_cases isStruct : c = '('
              · subst isStruct
                exact Ty.spells_struct fields read
              · by_cases isEntry : c = '\x7b'
                · subst isEntry
                  exact Ty.spells_entry inner read
                · simp only [Ty.readOne, known] at read
                  cases read

theorem Ty.spellsFields_succ (inner : Ty.Spells fuel) (others : Ty.SpellsFields fuel) :
    Ty.SpellsFields (fuel + 1) := by
  intro text fields rest read
  cases text with
  | nil => cases read
  | cons c text =>
      by_cases closes : c = ')'
      · subst closes
        rw [Ty.readFields_nil] at read
        cases read
        exact ⟨rfl, List.forall_mem_nil _⟩
      · rw [Ty.readFields, if_neg closes] at read
        obtain ⟨⟨field, after⟩, first, behind⟩ := bind_eq_ok read
        obtain ⟨⟨more, last⟩, second, whole⟩ := bind_eq_ok behind
        cases whole
        obtain ⟨spelledField, backField⟩ := inner first
        obtain ⟨spelledOthers, backOthers⟩ := others second
        constructor
        · rw [spelledField, spelledOthers, Ty.toList_signatures_cons, List.append_assoc]
        · exact List.forall_mem_cons.mpr ⟨backField, backOthers⟩

end Steps

theorem Ty.spells (fuel : Nat) : Ty.Spells fuel ∧ Ty.SpellsFields fuel := by
  induction fuel with
  | zero =>
      constructor
      · intro text ty rest read
        cases text <;> cases read
      · intro text fields rest read
        cases text <;> cases read
  | succ fuel ih => exact ⟨Ty.spells_succ ih.1 ih.2, Ty.spellsFields_succ ih.1 ih.2⟩

/-! ### Whole signatures -/

theorem Ty.readAll_spells {fuel : Nat} {text : List Char} {types : List Ty}
    (read : Ty.readAll fuel text = .ok types) :
    text = (Ty.signatures types).toList ∧ ∀ ty ∈ types, ty.ReadsBack := by
  induction fuel generalizing text types with
  | zero =>
      cases text with
      | nil =>
          cases read
          exact ⟨rfl, List.forall_mem_nil _⟩
      | cons c text => cases read
  | succ fuel ih =>
      cases text with
      | nil =>
          cases read
          exact ⟨rfl, List.forall_mem_nil _⟩
      | cons c text =>
          rw [Ty.readAll] at read
          · obtain ⟨⟨ty, rest⟩, first, behind⟩ := bind_eq_ok read
            obtain ⟨others, second, whole⟩ := bind_eq_ok behind
            cases whole
            obtain ⟨spelled, back⟩ := (Ty.spells fuel).1 first
            obtain ⟨spelledOthers, backOthers⟩ := ih second
            constructor
            · rw [spelled, spelledOthers, Ty.toList_signatures_cons]
            · exact List.forall_mem_cons.mpr ⟨back, backOthers⟩
          · exact List.cons_ne_nil _ _

theorem Ty.signatures_of_ofSignature {text : String} {types : List Ty}
    (read : Ty.ofSignature text = .ok types) : Ty.signatures types = text := by
  have octets : Text.Utf8.octets text = (Ty.signatures types).toList := (Ty.readAll_spells read).1
  have ascii : ∀ c ∈ Text.Utf8.octets text, c.toNat < 0x80 := by
    intro c member
    rw [octets] at member
    exact (Ty.ascii_signatures types c member).2
  apply String.toList_injective
  rw [← octets, Text.Utf8.octets_eq_toList (Text.Utf8.ascii_of_octets ascii)]

/-- Each type of a signature has a signature of its own. -/
theorem Ty.ofSignature_of_mem {text : String} {types : List Ty}
    (read : Ty.ofSignature text = .ok types) {ty : Ty} (member : ty ∈ types) :
    Ty.ofSignature ty.signature = .ok [ty] := by
  exact ((Ty.readAll_spells read).2 ty member).ofSignature

/-! ### Parts of types -/

section ReadsBack

variable {element keyTy valueTy : Ty} {types : List Ty}

theorem Ty.readsBack_of_ofSignature {ty : Ty} (known : Ty.ofSignature ty.signature = .ok [ty]) :
    ty.ReadsBack :=
  (Ty.readAll_spells known).2 ty List.mem_cons_self

/-- A type that reads back is read from its signature, and what is left behind it is the rest. -/
theorem Ty.ReadsBack.readOne {ty : Ty} (back : ty.ReadsBack) (rest : List Char) :
    ∃ fuel, Ty.readOne (fuel + 1) (ty.signature.toList ++ rest) = .ok (ty, rest) :=
  ⟨_, back (2 * ty.signature.toList.length + 1) rest (by omega)⟩

theorem Ty.ReadsBack.signature_inj {ty ty' : Ty} (back : ty.ReadsBack) (back' : ty'.ReadsBack)
    {rest rest' : List Char}
    (same : ty.signature.toList ++ rest = ty'.signature.toList ++ rest') : ty = ty' := by
  let fuel := 2 * (ty.signature.toList.length + ty'.signature.toList.length)
  have read := back fuel rest (by omega)
  rw [same, back' fuel rest' (by omega)] at read
  cases read
  rfl

theorem Ty.ReadsBack.of_element (back : (Ty.array element).ReadsBack) : element.ReadsBack := by
  obtain ⟨fuel, read⟩ := back.readOne []
  rw [Ty.toList_array, List.cons_append] at read
  obtain ⟨found, first, whole⟩ := Ty.readOne_array_eq_ok read
  have inner := ((Ty.spells fuel).1 first).2
  cases found with
  | entry key value => cases whole
  | _ =>
      cases whole
      exact inner

theorem Ty.readsBack_of_readOne_entry {fuel : Nat} {text rest : List Char}
    (read : Ty.readOne fuel text = .ok (.entry keyTy valueTy, rest)) :
    keyTy.ReadsBack ∧ valueTy.ReadsBack := by
  obtain ⟨spelled, _⟩ := (Ty.spells fuel).1 read
  rw [Ty.toList_entry, List.cons_append] at spelled
  subst spelled
  cases fuel with
  | zero => cases read
  | succ fuel =>
      obtain ⟨key, afterKey, value, first, _, second, whole⟩ := Ty.readOne_entry_eq_ok read
      cases whole
      exact ⟨((Ty.spells fuel).1 first).2, ((Ty.spells fuel).1 second).2⟩

theorem Ty.ReadsBack.of_dictionary (back : (Ty.dictionary keyTy valueTy).ReadsBack) :
    keyTy.ReadsBack ∧ valueTy.ReadsBack := by
  obtain ⟨fuel, read⟩ := back.readOne []
  rw [Ty.toList_dictionary, List.cons_append] at read
  obtain ⟨found, first, whole⟩ := Ty.readOne_array_eq_ok read
  cases found with
  | entry key value =>
      cases whole
      exact Ty.readsBack_of_readOne_entry first
  | _ => cases whole

theorem Ty.ReadsBack.of_field (back : (Ty.struct types).ReadsBack) :
    ∀ ty ∈ types, ty.ReadsBack := by
  obtain ⟨fuel, read⟩ := back.readOne []
  rw [Ty.toList_struct, List.cons_append] at read
  obtain ⟨found, first, _, whole⟩ := Ty.readOne_struct_eq_ok read
  cases whole
  exact ((Ty.spells fuel).2 first).2

end ReadsBack

end SessionProbe.Wire
