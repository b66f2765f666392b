import SessionProbe.Proofs.Text.Utf8
import SessionProbe.Wire.Signature

set_option autoImplicit false

/-!
Signatures read back. `Ty.ofSignature_signatures` says that the signature of complete types is read
as these types; `Ty.IsComplete` tells which types are complete.
-/

namespace SessionProbe.Wire

mutual

/-- Whether values can have a type: keys are basic, no entry stands alone and every struct has a
field. -/
def Ty.IsComplete : Ty → Prop
  | .basic _ | .variant => True
  | .array element => element.IsComplete
  | .dictionary key value => (∃ kind, key = .basic kind) ∧ value.IsComplete
  | .entry _ _ => False
  | .struct fields => fields ≠ [] ∧ Ty.AllComplete fields

def Ty.AllComplete : List Ty → Prop
  | [] => True
  | ty :: rest => ty.IsComplete ∧ Ty.AllComplete rest

end

/-! ### The characters of a signature -/

theorem Ty.toList_basic (kind : Basic) : (Ty.basic kind).signature.toList = [kind.code] :=
  String.toList_singleton kind.code

theorem Ty.toList_variant : Ty.variant.signature.toList = ['v'] :=
  rfl

theorem Ty.toList_array (element : Ty) :
    (Ty.array element).signature.toList = 'a' :: element.signature.toList :=
  String.toList_append

theorem Ty.toList_dictionary (key value : Ty) :
    (Ty.dictionary key value).signature.toList =
      'a' :: '\x7b' :: (key.signature.toList ++ value.signature.toList ++ ['\x7d']) := by
  simp [Ty.signature]

theorem Ty.toList_entry (key value : Ty) :
    (Ty.entry key value).signature.toList =
      '\x7b' :: (key.signature.toList ++ value.signature.toList ++ ['\x7d']) := by
  simp [Ty.signature]

theorem Ty.toList_struct (fields : List Ty) :
    (Ty.struct fields).signature.toList = '(' :: ((Ty.signatures fields).toList ++ [')']) := by
  simp [Ty.signature]

theorem Ty.toList_signatures_cons (ty : Ty) (rest : List Ty) :
    (Ty.signatures (ty :: rest)).toList = ty.signature.toList ++ (Ty.signatures rest).toList :=
  String.toList_append

/-- A signature starts with a character, and not with the one that closes a struct. -/
theorem Ty.toList_eq_cons (ty : Ty) :
    ∃ first rest, ty.signature.toList = first :: rest ∧ first ≠ ')' := by
  cases ty with
  | basic kind => exact ⟨_, _, Ty.toList_basic kind, by cases kind <;> decide⟩
  | «variant» => exact ⟨_, _, Ty.toList_variant, by decide⟩
  | array element => exact ⟨_, _, Ty.toList_array element, by decide⟩
  | dictionary key value => exact ⟨_, _, Ty.toList_dictionary key value, by decide⟩
  | entry key value => exact ⟨_, _, Ty.toList_entry key value, by decide⟩
  | struct fields => exact ⟨_, _, Ty.toList_struct fields, by decide⟩

theorem Ty.length_signature_pos (ty : Ty) : 0 < ty.signature.toList.length := by
  obtain ⟨first, rest, shape, _⟩ := Ty.toList_eq_cons ty
  rw [shape]
  exact Nat.succ_pos _

theorem Ty.toList_arrayOf (element : Ty) :
    (Ty.arrayOf element).signature.toList = 'a' :: element.signature.toList := by
  cases element with
  | entry key value => simp [Ty.arrayOf, Ty.signature]
  | _ => exact Ty.toList_array _

mutual

theorem Ty.ascii_signature (ty : Ty) :
    ∀ c ∈ ty.signature.toList, c ≠ '\x00' ∧ c.toNat < 0x80 := by
  intro c member
  cases ty with
  | basic kind =>
      rw [Ty.toList_basic, List.mem_singleton] at member
      rw [member]
      cases kind <;> decide
  | «variant» =>
      rw [Ty.toList_variant, List.mem_singleton] at member
      rw [member]
      decide
  | array element =>
      rw [Ty.toList_array, List.mem_cons] at member
      rcases member with rfl | inner
      · decide
      · exact Ty.ascii_signature element c inner
  | dictionary key value =>
      simp only [Ty.toList_dictionary, List.mem_cons, List.mem_append, List.not_mem_nil,
        or_false] at member
      rcases member with rfl | rfl | (inner | inner) | rfl
      · decide
      · decide
      · exact Ty.ascii_signature key c inner
      · exact Ty.ascii_signature value c inner
      · decide
  | entry key value =>
      simp only [Ty.toList_entry, List.mem_cons, List.mem_append, List.not_mem_nil,
        or_false] at member
      rcases member with rfl | (inner | inner) | rfl
      · decide
      · exact Ty.ascii_signature key c inner
      · exact Ty.ascii_signature value c inner
      · decide
  | struct fields =>
      simp only [Ty.toList_struct, List.mem_cons, List.mem_append, List.not_mem_nil,
        or_false] at member
      rcases member with rfl | inner | rfl
      · decide
      · exact Ty.ascii_signatures fields c inner
      · decide

theorem Ty.ascii_signatures (types : List Ty) :
    ∀ c ∈ (Ty.signatures types).toList, c ≠ '\x00' ∧ c.toNat < 0x80 := by
  intro c member
  cases types with
  | nil => exact absurd member List.not_mem_nil
  | cons ty rest =>
      rw [Ty.toList_signatures_cons, List.mem_append] at member
      rcases member with inner | later
      · exact Ty.ascii_signature ty c inner
      · exact Ty.ascii_signatures rest c later

end

/-! ### One step of the reading -/

section Steps

variable {fuel : Nat} {element key value field : Ty} {fields : List Ty} {kind : Basic}
  {text after rest : List Char}

theorem Ty.readOne_basic : Ty.readOne (fuel + 1) (kind.code :: rest) = .ok (.basic kind, rest) := by
  cases kind <;> rfl

theorem Ty.readOne_variant : Ty.readOne (fuel + 1) ('v' :: rest) = .ok (.variant, rest) :=
  rfl

theorem Ty.readOne_array (read : Ty.readOne fuel text = .ok (element, rest)) (some : text ≠ []) :
    Ty.readOne (fuel + 1) ('a' :: text) = .ok (Ty.arrayOf element, rest) := by
  have nonempty : ¬text.isEmpty = true := by
    rw [List.isEmpty_iff]
    exact some
  refine (if_neg nonempty).trans ?_
  rw [read]
  rfl

/-- An entry has a key of one character and a value of one character at least. -/
theorem Ty.readOne_entry {c : Char} (readKey : Ty.readOne fuel (c :: text) = .ok (key, text))
    (readValue : Ty.readOne fuel text = .ok (value, '\x7d' :: rest)) (long : 2 ≤ text.length) :
    Ty.readOne (fuel + 1) ('\x7b' :: c :: text) = .ok (.entry key value, rest) := by
  have short : ¬(c :: text).length < 3 := by
    rw [List.length_cons]
    omega
  refine (if_neg short).trans ?_
  simp [readKey, readValue, bind, Except.bind, pure, Except.pure]

theorem Ty.readOne_struct (read : Ty.readFields fuel text = .ok (fields, rest))
    (some : fields ≠ []) (long : 2 ≤ text.length) :
    Ty.readOne (fuel + 1) ('(' :: text) = .ok (.struct fields, rest) := by
  have short : ¬text.length < 2 := by omega
  have nonempty : fields.isEmpty = false := by
    rw [List.isEmpty_eq_false_iff]
    exact some
  refine (if_neg short).trans ?_
  simp [read, nonempty, bind, Except.bind, pure, Except.pure]

theorem Ty.readFields_nil : Ty.readFields (fuel + 1) (')' :: rest) = .ok ([], rest) :=
  if_pos rfl

theorem Ty.readFields_cons {first : Char} (inside : first ≠ ')')
    (readField : Ty.readOne fuel (first :: text) = .ok (field, after))
    (readRest : Ty.readFields fuel after = .ok (fields, rest)) :
    Ty.readFields (fuel + 1) (first :: text) = .ok (field :: fields, rest) := by
  refine (if_neg inside).trans ?_
  rw [readField]
  simp [readRest, bind, Except.bind, pure, Except.pure]

theorem Ty.readAll_cons {first : Char}
    (readField : Ty.readOne fuel (first :: text) = .ok (field, after))
    (readRest : Ty.readAll fuel after = .ok fields) :
    Ty.readAll (fuel + 1) (first :: text) = .ok (field :: fields) := by
  rw [Ty.readAll, readField]
  · simp [readRest, bind, Except.bind, pure, Except.pure]
  · exact List.cons_ne_nil _ _

end Steps

/-! ### Types that read back -/

/-- Whether the signature of a type is read as this type and no further. A step of the reading takes
a character or starts a field, hence the bound on the fuel. -/
def Ty.ReadsBack (ty : Ty) : Prop :=
  ∀ (fuel : Nat) (rest : List Char), 2 * ty.signature.toList.length ≤ fuel + 1 →
    Ty.readOne fuel (ty.signature.toList ++ rest) = .ok (ty, rest)

theorem Ty.readsBack_basic (kind : Basic) : (Ty.basic kind).ReadsBack := by
  intro fuel rest enough
  rw [Ty.toList_basic] at enough ⊢
  obtain ⟨fuel, rfl⟩ : ∃ left, fuel = left + 1 := ⟨fuel - 1, by simp at enough; omega⟩
  exact Ty.readOne_basic

theorem Ty.readsBack_variant : Ty.variant.ReadsBack := by
  intro fuel rest enough
  rw [Ty.toList_variant] at enough ⊢
  obtain ⟨fuel, rfl⟩ : ∃ left, fuel = left + 1 := ⟨fuel - 1, by simp at enough; omega⟩
  exact Ty.readOne_variant

theorem Ty.readsBack_arrayOf {element : Ty} (inner : element.ReadsBack) :
    (Ty.arrayOf element).ReadsBack := by
  intro fuel rest enough
  rw [Ty.toList_arrayOf, List.length_cons] at enough
  rw [Ty.toList_arrayOf, List.cons_append]
  obtain ⟨first, others, shape, _⟩ := Ty.toList_eq_cons element
  obtain ⟨fuel, rfl⟩ : ∃ left, fuel = left + 1 := ⟨fuel - 1, by omega⟩
  apply Ty.readOne_array (inner fuel rest (by omega))
  rw [shape]
  exact List.cons_ne_nil _ _

theorem Ty.readsBack_entry {key value : Ty} (readKey : key.ReadsBack)
    (single : key.signature.toList.length = 1) (readValue : value.ReadsBack) :
    (Ty.entry key value).ReadsBack := by
  intro fuel rest enough
  obtain ⟨c, shape⟩ := List.length_eq_one_iff.mp single
  have long := Ty.length_signature_pos value
  simp only [Ty.toList_entry, shape, List.length_cons, List.length_append, List.length_nil]
    at enough
  simp only [Ty.toList_entry, shape, List.cons_append, List.nil_append, List.append_assoc]
  obtain ⟨fuel, rfl⟩ : ∃ left, fuel = left + 1 := ⟨fuel - 1, by omega⟩
  have first := readKey fuel (value.signature.toList ++ '\x7d' :: rest) (by omega)
  rw [shape] at first
  refine Ty.readOne_entry first (readValue fuel ('\x7d' :: rest) (by omega)) ?_
  rw [List.length_append, List.length_cons]
  omega

theorem Ty.readFields_of_readsBack {fields : List Ty} (each : ∀ field ∈ fields, field.ReadsBack)
    (fuel : Nat) (rest : List Char)
    (enough : 2 * (Ty.signatures fields).toList.length + 1 ≤ fuel) :
    Ty.readFields fuel ((Ty.signatures fields).toList ++ ')' :: rest) = .ok (fields, rest) := by
  induction fields generalizing fuel with
  | nil =>
      obtain ⟨fuel, rfl⟩ : ∃ left, fuel = left + 1 := ⟨fuel - 1, by omega⟩
      exact Ty.readFields_nil
  | cons field others ih =>
      obtain ⟨fuel, rfl⟩ : ∃ left, fuel = left + 1 := ⟨fuel - 1, by omega⟩
      obtain ⟨readField, readOthers⟩ := List.forall_mem_cons.mp each
      obtain ⟨first, tail, shape, inside⟩ := Ty.toList_eq_cons field
      have long := Ty.length_signature_pos field
      rw [Ty.toList_signatures_cons, List.length_append] at enough
      have here := readField fuel ((Ty.signatures others).toList ++ ')' :: rest) (by omega)
      have behind := ih readOthers fuel (by omega)
      rw [Ty.toList_signatures_cons, List.append_assoc]
      rw [shape, List.cons_append] at here ⊢
      exact Ty.readFields_cons inside here behind

theorem Ty.readsBack_struct {fields : List Ty} (some : fields ≠ [])
    (each : ∀ field ∈ fields, field.ReadsBack) : (Ty.struct fields).ReadsBack := by
  intro fuel rest enough
  simp only [Ty.toList_struct, List.length_cons, List.length_append, List.length_nil] at enough
  simp only [Ty.toList_struct, List.cons_append, List.nil_append, List.append_assoc]
  obtain ⟨fuel, rfl⟩ : ∃ left, fuel = left + 1 := ⟨fuel - 1, by omega⟩
  refine Ty.readOne_struct (Ty.readFields_of_readsBack each fuel rest (by omega)) some ?_
  cases fields with
  | nil => exact absurd rfl some
  | cons field others =>
      have long := Ty.length_signature_pos field
      rw [Ty.toList_signatures_cons]
      simp only [List.length_append, List.length_cons]
      omega

mutual

theorem Ty.IsComplete.readsBack (ty : Ty) (complete : ty.IsComplete) : ty.ReadsBack := by
  cases ty with
  | basic kind => exact Ty.readsBack_basic kind
  | «variant» => exact Ty.readsBack_variant
  | array element =>
      have inner : element.IsComplete := complete
      have read := Ty.readsBack_arrayOf (Ty.IsComplete.readsBack element inner)
      cases element with
      | entry key value => exact inner.elim
      | _ => exact read
  | dictionary key value =>
      obtain ⟨⟨kind, rfl⟩, inner⟩ := complete
      have single : (Ty.basic kind).signature.toList.length = 1 := by
        rw [Ty.toList_basic, List.length_singleton]
      have entry := Ty.readsBack_entry (Ty.readsBack_basic kind) single
        (Ty.IsComplete.readsBack value inner)
      have whole := Ty.readsBack_arrayOf entry
      rwa [Ty.arrayOf] at whole
  | entry key value => exact complete.elim
  | struct fields =>
      obtain ⟨some, inner⟩ := complete
      exact Ty.readsBack_struct some (Ty.AllComplete.readBack fields inner)

theorem Ty.AllComplete.readBack (fields : List Ty) (complete : Ty.AllComplete fields) :
    ∀ field ∈ fields, field.ReadsBack := by
  cases fields with
  | nil => exact List.forall_mem_nil _
  | cons field others =>
      exact List.forall_mem_cons.mpr
        ⟨Ty.IsComplete.readsBack field complete.1, Ty.AllComplete.readBack others complete.2⟩

end

/-! ### Whole signatures -/

theorem Ty.readAll_of_readsBack {types : List Ty} (each : ∀ ty ∈ types, ty.ReadsBack) (fuel : Nat)
    (enough : 2 * (Ty.signatures types).toList.length ≤ fuel) :
    Ty.readAll fuel (Ty.signatures types).toList = .ok types := by
  induction types generalizing fuel with
  | nil => cases fuel <;> rfl
  | cons ty others ih =>
      obtain ⟨readField, readOthers⟩ := List.forall_mem_cons.mp each
      obtain ⟨first, tail, shape, _⟩ := Ty.toList_eq_cons ty
      have long := Ty.length_signature_pos ty
      rw [Ty.toList_signatures_cons, List.length_append] at enough
      obtain ⟨fuel, rfl⟩ : ∃ left, fuel = left + 1 := ⟨fuel - 1, by omega⟩
      have here := readField fuel (Ty.signatures others).toList (by omega)
      have behind := ih readOthers fuel (by omega)
      rw [Ty.toList_signatures_cons]
      rw [shape, List.cons_append] at here ⊢
      exact Ty.readAll_cons here behind

theorem Ty.octets_signatures (types : List Ty) :
    Text.Utf8.octets (Ty.signatures types) = (Ty.signatures types).toList :=
  Text.Utf8.octets_eq_toList fun c member => (Ty.ascii_signatures types c member).2

theorem Ty.size_signatures (types : List Ty) :
    Text.Utf8.size (Ty.signatures types) = (Ty.signatures types).toList.length := by
  rw [← Ty.octets_signatures types, Text.Utf8.octets, List.length_map, Text.Utf8.size]

theorem Ty.ofSignature_of_readsBack {types : List Ty} (each : ∀ ty ∈ types, ty.ReadsBack) :
    Ty.ofSignature (Ty.signatures types) = .ok types := by
  unfold Ty.ofSignature
  rw [Ty.octets_signatures types]
  exact Ty.readAll_of_readsBack each _ (by omega)

theorem Ty.ofSignature_signatures {types : List Ty} (complete : Ty.AllComplete types) :
    Ty.ofSignature (Ty.signatures types) = .ok types := by
  exact Ty.ofSignature_of_readsBack (Ty.AllComplete.readBack types complete)

theorem Ty.ReadsBack.ofSignature {ty : Ty} (read : ty.ReadsBack) :
    Ty.ofSignature ty.signature = .ok [ty] := by
  have whole : Ty.signatures [ty] = ty.signature := by
    simp [Ty.signatures]
  rw [← whole]
  exact Ty.ofSignature_of_readsBack (List.forall_mem_singleton.mpr read)

theorem Ty.ofSignature_signature {ty : Ty} (complete : ty.IsComplete) :
    Ty.ofSignature ty.signature = .ok [ty] := by
  exact (Ty.IsComplete.readsBack ty complete).ofSignature

end SessionProbe.Wire
