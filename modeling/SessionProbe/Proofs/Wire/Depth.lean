import SessionProbe.Wire.Reading

set_option autoImplicit false

/-!
How deep containers lie in each other: structs alone, arrays alone, or all of them. Each has its own
limit, and the body of a message counts as a struct. A value fits where a reader stands if it has no
more layers of any kind than the reader may still enter.
-/

namespace SessionProbe.Wire

namespace Container

def ofStruct : Container → Nat
  | .struct | .any => 1
  | .array => 0

def ofArray : Container → Nat
  | .array | .any => 1
  | .struct => 0

def ofVariant : Container → Nat
  | .any => 1
  | .struct | .array => 0

end Container

mutual

/-- How many containers of a kind lie around the innermost part of a value, itself included. -/
def Value.layers (counted : Container) : Value → Nat
  | .scalar _ => 0
  | .variant content => content.layers counted + counted.ofVariant
  | .array _ items => Value.layersAll counted items + counted.ofArray
  | .dictionary _ _ entries => Value.entryLayers counted entries + counted.ofArray
  | .struct fields => Value.layersAll counted fields + counted.ofStruct

def Value.layersAll (counted : Container) : List Value → Nat
  | [] => 0
  | value :: rest => max (value.layers counted) (Value.layersAll counted rest)

def Value.entryLayers (counted : Container) : List (Value × Value) → Nat
  | [] => 0
  | (key, value) :: rest =>
    max (max (key.layers counted) (value.layers counted)) (Value.entryLayers counted rest)

end

/-- Whether a value that is the whole of a body is nested within all limits. -/
def Value.IsWithinLimits (value : Value) : Prop :=
  ∀ counted : Container, value.layers counted ≤ counted.limit

section Lists

variable {counted : Container} {bound : Nat}

theorem Value.layersAll_le_iff {values : List Value} :
    Value.layersAll counted values ≤ bound ↔ ∀ value ∈ values, value.layers counted ≤ bound := by
  induction values with
  | nil => simp [Value.layersAll]
  | cons value rest ih => rw [Value.layersAll, Nat.max_le, ih, List.forall_mem_cons]

theorem Value.entryLayers_le_iff {entries : List (Value × Value)} :
    Value.entryLayers counted entries ≤ bound ↔
      ∀ entry ∈ entries, entry.1.layers counted ≤ bound ∧ entry.2.layers counted ≤ bound := by
  induction entries with
  | nil => simp [Value.entryLayers]
  | cons entry rest ih => rw [Value.entryLayers, Nat.max_le, Nat.max_le, ih, List.forall_mem_cons]

theorem Value.layersAll_append (front back : List Value) :
    Value.layersAll counted (front ++ back) =
      max (Value.layersAll counted front) (Value.layersAll counted back) := by
  induction front with
  | nil => exact (Nat.zero_max _).symm
  | cons value rest ih => rw [List.cons_append, Value.layersAll, Value.layersAll, ih, Nat.max_assoc]

theorem Value.entryLayers_append (front back : List (Value × Value)) :
    Value.entryLayers counted (front ++ back) =
      max (Value.entryLayers counted front) (Value.entryLayers counted back) := by
  induction front with
  | nil => exact (Nat.zero_max _).symm
  | cons entry rest ih =>
      rw [List.cons_append, Value.entryLayers, Value.entryLayers, ih]
      simp only [Nat.max_assoc]

theorem Value.layers_le_of_mem_entries {entry : Value × Value} {entries : List (Value × Value)}
    (member : entry ∈ entries) :
    entry.1.layers counted ≤ Value.entryLayers counted entries ∧
      entry.2.layers counted ≤ Value.entryLayers counted entries :=
  Value.entryLayers_le_iff.mp (Nat.le_refl _) entry member

end Lists

mutual

theorem Value.layers_le_depth (counted : Container) (value : Value) :
    value.layers counted ≤ value.depth := by
  cases value with
  | scalar value => exact Nat.le_refl 0
  | «variant» content =>
      have inner := Value.layers_le_depth counted content
      rw [Value.layers, Value.depth]
      cases counted <;> simp only [Container.ofVariant] <;> omega
  | array element items =>
      have inner := Value.layersAll_le_depths counted items
      rw [Value.layers, Value.depth]
      cases counted <;> simp only [Container.ofArray] <;> omega
  | dictionary key value entries =>
      have inner := Value.entryLayers_le_entryDepths counted entries
      rw [Value.layers, Value.depth]
      cases counted <;> simp only [Container.ofArray] <;> omega
  | struct fields =>
      have inner := Value.layersAll_le_depths counted fields
      rw [Value.layers, Value.depth]
      cases counted <;> simp only [Container.ofStruct] <;> omega

theorem Value.layersAll_le_depths (counted : Container) (values : List Value) :
    Value.layersAll counted values ≤ Value.depths values := by
  cases values with
  | nil => exact Nat.le_refl 0
  | cons value rest =>
      have here := Value.layers_le_depth counted value
      have others := Value.layersAll_le_depths counted rest
      rw [Value.layersAll, Value.depths]
      omega

theorem Value.entryLayers_le_entryDepths (counted : Container) (entries : List (Value × Value)) :
    Value.entryLayers counted entries ≤ Value.entryDepths entries := by
  cases entries with
  | nil => exact Nat.le_refl 0
  | cons entry rest =>
      obtain ⟨key, value⟩ := entry
      have ofKey := Value.layers_le_depth counted key
      have ofValue := Value.layers_le_depth counted value
      have others := Value.entryLayers_le_entryDepths counted rest
      rw [Value.entryLayers, Value.entryDepths]
      omega

end

/-! ### What is left of the limits -/

/-- How many containers of a kind a reader may still enter. -/
def Nesting.left (room : Nat) (nesting : Nesting) : Container → Nat
  | .any => room
  | .struct => Container.struct.limit - nesting.structs
  | .array => Container.array.limit - nesting.arrays

def Value.FitsIn (room : Nat) (nesting : Nesting) (value : Value) : Prop :=
  ∀ counted : Container, value.layers counted ≤ nesting.left room counted

section Fits

variable {room : Nat} {nesting inner : Nesting}

theorem Nesting.left_of_intoArray (entered : nesting.intoArray = .ok inner)
    (counted : Container) :
    nesting.left (room + 1) counted = inner.left room counted + counted.ofArray := by
  unfold Nesting.intoArray at entered
  split at entered
  · cases entered
    cases counted <;> simp only [Nesting.left, Container.ofArray] <;> omega
  · cases entered

theorem Nesting.left_of_intoStruct (entered : nesting.intoStruct = .ok inner)
    (counted : Container) :
    nesting.left (room + 1) counted = inner.left room counted + counted.ofStruct := by
  unfold Nesting.intoStruct at entered
  split at entered
  · cases entered
    cases counted <;> simp only [Nesting.left, Container.ofStruct] <;> omega
  · cases entered

theorem Value.not_fitsIn_zero {value : Value} (container : 0 < value.layers .any) :
    ¬value.FitsIn 0 nesting := by
  intro fits
  exact absurd (fits .any) (Nat.not_le_of_lt container)

theorem Value.not_fitsIn_of_intoArray {value : Value} {fault : Fault}
    (full : nesting.intoArray = .error fault) (container : 0 < value.layers .array) :
    ¬value.FitsIn room nesting := by
  intro fits
  have left := fits .array
  unfold Nesting.intoArray at full
  split at full
  · cases full
  · rw [Nesting.left] at left
    omega

theorem Value.not_fitsIn_of_intoStruct {value : Value} {fault : Fault}
    (full : nesting.intoStruct = .error fault) (container : 0 < value.layers .struct) :
    ¬value.FitsIn room nesting := by
  intro fits
  have left := fits .struct
  unfold Nesting.intoStruct at full
  split at full
  · cases full
  · rw [Nesting.left] at left
    omega

theorem Value.fitsIn_scalar (value : Scalar) : (Value.scalar value).FitsIn room nesting :=
  fun _ => Nat.zero_le _

theorem Value.fitsIn_variant_iff {content : Value} :
    (Value.variant content).FitsIn (room + 1) nesting ↔ content.FitsIn room nesting := by
  refine forall_congr' fun counted => ?_
  rw [Value.layers]
  cases counted <;> simp only [Nesting.left, Container.ofVariant] <;> omega

theorem Value.fitsIn_array_iff (entered : nesting.intoArray = .ok inner) {element : Ty}
    {items : List Value} :
    (Value.array element items).FitsIn (room + 1) nesting ↔
      ∀ item ∈ items, item.FitsIn room inner := by
  unfold Value.FitsIn
  simp only [Value.layers, Nesting.left_of_intoArray entered, Nat.add_le_add_iff_right,
    Value.layersAll_le_iff]
  exact ⟨fun fits item member counted => fits counted item member,
    fun fits counted item member => fits item member counted⟩

theorem Value.fitsIn_dictionary_iff (entered : nesting.intoArray = .ok inner) {keyTy valueTy : Ty}
    {entries : List (Value × Value)} :
    (Value.dictionary keyTy valueTy entries).FitsIn (room + 1) nesting ↔
      ∀ entry ∈ entries, entry.1.FitsIn room inner ∧ entry.2.FitsIn room inner := by
  unfold Value.FitsIn
  simp only [Value.layers, Nesting.left_of_intoArray entered, Nat.add_le_add_iff_right,
    Value.entryLayers_le_iff]
  constructor
  · intro fits entry member
    exact ⟨fun counted => (fits counted entry member).1, fun counted => (fits counted entry member).2⟩
  · intro fits counted entry member
    exact ⟨(fits entry member).1 counted, (fits entry member).2 counted⟩

theorem Value.fitsIn_struct_iff (entered : nesting.intoStruct = .ok inner) {fields : List Value} :
    (Value.struct fields).FitsIn (room + 1) nesting ↔
      ∀ field ∈ fields, field.FitsIn room inner := by
  unfold Value.FitsIn
  simp only [Value.layers, Nesting.left_of_intoStruct entered, Nat.add_le_add_iff_right,
    Value.layersAll_le_iff]
  exact ⟨fun fits field member counted => fits counted field member,
    fun fits counted field member => fits field member counted⟩

/-- The values of a body fit behind the struct that the body is read as. -/
theorem Value.isWithinLimits_iff {values : List Value} :
    (Value.struct values).IsWithinLimits ↔
      ∀ value ∈ values, value.FitsIn (Container.any.limit - 1) ⟨1, 0⟩ := by
  have entered : Nesting.intoStruct ⟨0, 0⟩ = .ok ⟨1, 0⟩ := rfl
  rw [← Value.fitsIn_struct_iff entered]
  refine forall_congr' fun counted => ?_
  cases counted <;> rfl

end Fits

end SessionProbe.Wire
