import SessionProbe.Proofs.Wire.Marshal
import SessionProbe.Proofs.Wire.Sorting
import SessionProbe.Proofs.Wire.Typing

set_option autoImplicit false

/-!
Values with sorted dictionaries. A sorted value has the type of the value, inside and out, and what
holds of the types at all depths of one holds of the other.
-/

namespace SessionProbe.Wire

/-! ### Values by their parts -/

/-- Induction on a value, with all its parts at once. -/
@[elab_as_elim]
theorem Value.memberwise {motive : Value → Prop} (scalar : ∀ value, motive (.scalar value))
    (isVariant : ∀ content, motive content → motive (.variant content))
    (array : ∀ element items, (∀ item ∈ items, motive item) → motive (.array element items))
    (dictionary : ∀ keyTy valueTy entries, (∀ entry ∈ entries, motive entry.1 ∧ motive entry.2) →
      motive (.dictionary keyTy valueTy entries))
    (struct : ∀ fields, (∀ field ∈ fields, motive field) → motive (.struct fields)) :
    ∀ value, motive value
  | .scalar value => scalar value
  | .variant content =>
      isVariant content (Value.memberwise scalar isVariant array dictionary struct content)
  | .array element items =>
      array element items fun item _ =>
        Value.memberwise scalar isVariant array dictionary struct item
  | .dictionary keyTy valueTy entries =>
      dictionary keyTy valueTy entries fun entry _ =>
        ⟨Value.memberwise scalar isVariant array dictionary struct entry.1,
          Value.memberwise scalar isVariant array dictionary struct entry.2⟩
  | .struct fields =>
      struct fields fun field _ =>
        Value.memberwise scalar isVariant array dictionary struct field
termination_by value => sizeOf value
decreasing_by
  · simp only [Value.variant.sizeOf_spec]
    omega
  · rename_i member
    have smaller := List.sizeOf_lt_of_mem member
    simp only [Value.array.sizeOf_spec]
    omega
  · rename_i member
    have smaller := List.sizeOf_lt_of_mem member
    obtain ⟨key, value⟩ := entry
    simp only [Value.dictionary.sizeOf_spec, Prod.mk.sizeOf_spec] at smaller ⊢
    omega
  · rename_i member
    have smaller := List.sizeOf_lt_of_mem member
    obtain ⟨key, value⟩ := entry
    simp only [Value.dictionary.sizeOf_spec, Prod.mk.sizeOf_spec] at smaller ⊢
    omega
  · rename_i member
    have smaller := List.sizeOf_lt_of_mem member
    simp only [Value.struct.sizeOf_spec]
    omega

section Lists

variable {ty keyTy valueTy : Ty} {values : List Value} {entries : List (Value × Value)}

theorem Value.types_eq_map (values : List Value) : Value.types values = values.map Value.ty := by
  induction values with
  | nil => rfl
  | cons value rest ih => rw [Value.types, ih, List.map_cons]

theorem Value.normals_eq_map (values : List Value) :
    Value.normals values = values.map Value.normal := by
  induction values with
  | nil => rfl
  | cons value rest ih => rw [Value.normals, ih, List.map_cons]

theorem Value.normalEntries_eq_map (entries : List (Value × Value)) :
    Value.normalEntries entries = entries.map (Prod.map Value.normal Value.normal) := by
  induction entries with
  | nil => rfl
  | cons entry rest ih => rw [Value.normalEntries, ih, List.map_cons, Prod.map]

theorem Value.allSigned_iff :
    Value.AllSigned values ↔ ∀ value ∈ values, value.IsSigned := by
  induction values with
  | nil => simp [Value.AllSigned]
  | cons value rest ih => rw [Value.AllSigned, ih, List.forall_mem_cons]

theorem Value.entriesSigned_iff :
    Value.EntriesSigned entries ↔ ∀ entry ∈ entries, entry.1.IsSigned ∧ entry.2.IsSigned := by
  induction entries with
  | nil => simp [Value.EntriesSigned]
  | cons entry rest ih => rw [Value.EntriesSigned, ih, List.forall_mem_cons, and_assoc]

end Lists

/-! ### Parts of typed values -/

section Parts

variable {ty keyTy valueTy : Ty}

theorem Value.IsOf.of_item {element : Ty} {items : List Value}
    (whole : Value.IsOf ty (.array element items)) :
    ∀ item ∈ items, Value.IsOf element item := by
  intro item member
  obtain ⟨same, typed⟩ := Value.allTyped_iff.mp whole.typed item member
  exact ⟨same, typed, Value.allSigned_iff.mp whole.signed item member⟩

theorem Value.IsOf.of_entry {entries : List (Value × Value)}
    (whole : Value.IsOf ty (.dictionary keyTy valueTy entries)) :
    ∀ entry ∈ entries, Value.IsOf keyTy entry.1 ∧ Value.IsOf valueTy entry.2 := by
  intro entry member
  obtain ⟨⟨sameKey, keyTyped⟩, sameValue, valueTyped⟩ :=
    Value.entriesTyped_iff.mp whole.typed entry member
  obtain ⟨keySigned, valueSigned⟩ := Value.entriesSigned_iff.mp whole.signed entry member
  exact ⟨⟨sameKey, keyTyped, keySigned⟩, sameValue, valueTyped, valueSigned⟩

theorem Value.IsOf.of_field {fields : List Value} (whole : Value.IsOf ty (.struct fields)) :
    ∀ field ∈ fields, Value.IsOf field.ty field := by
  intro field member
  exact ⟨rfl, Value.fieldsTyped_iff.mp whole.typed field member,
    Value.allSigned_iff.mp whole.signed field member⟩

theorem Value.IsOf.of_content {content : Value} (whole : Value.IsOf ty (.variant content)) :
    Value.IsOf content.ty content :=
  ⟨rfl, whole.typed, whole.signed.2⟩

end Parts

/-! ### Values at all depths -/

mutual

/-- Whether a condition holds of a value and of all values in it. -/
def Value.Every (test : Value → Prop) : Value → Prop
  | .scalar value => test (.scalar value)
  | .variant content => test (.variant content) ∧ Value.Every test content
  | .array element items => test (.array element items) ∧ Value.AllEvery test items
  | .dictionary keyTy valueTy entries =>
    test (.dictionary keyTy valueTy entries) ∧ Value.EntriesEvery test entries
  | .struct fields => test (.struct fields) ∧ Value.AllEvery test fields

def Value.AllEvery (test : Value → Prop) : List Value → Prop
  | [] => True
  | value :: rest => Value.Every test value ∧ Value.AllEvery test rest

def Value.EntriesEvery (test : Value → Prop) : List (Value × Value) → Prop
  | [] => True
  | (key, value) :: rest =>
    Value.Every test key ∧ Value.Every test value ∧ Value.EntriesEvery test rest

end

section Every

variable {test : Value → Prop}

theorem Value.allEvery_iff {values : List Value} :
    Value.AllEvery test values ↔ ∀ value ∈ values, value.Every test := by
  induction values with
  | nil => simp [Value.AllEvery]
  | cons value rest ih => rw [Value.AllEvery, ih, List.forall_mem_cons]

theorem Value.entriesEvery_iff {entries : List (Value × Value)} :
    Value.EntriesEvery test entries ↔
      ∀ entry ∈ entries, entry.1.Every test ∧ entry.2.Every test := by
  induction entries with
  | nil => simp [Value.EntriesEvery]
  | cons entry rest ih => rw [Value.EntriesEvery, ih, List.forall_mem_cons, and_assoc]

end Every

/-! ### Sorted values -/

theorem Value.ty_normal (value : Value) : value.normal.ty = value.ty := by
  induction value using Value.memberwise with
  | struct fields ih =>
      have types : (fields.map Value.normal).map Value.ty = fields.map Value.ty := by
        rw [List.map_map]
        exact List.map_congr_left ih
      rw [Value.normal, Value.ty, Value.ty, Value.normals_eq_map, Value.types_eq_map, types,
        Value.types_eq_map]
  | _ => rfl

theorem Value.IsOf.normal {ty : Ty} {value : Value} (whole : Value.IsOf ty value) :
    Value.IsOf ty value.normal := by
  induction value using Value.memberwise generalizing ty with
  | scalar value => exact whole
  | isVariant content ih =>
      obtain ⟨rfl, typed, signed⟩ := whole
      exact Value.isOf_variant (ih ⟨rfl, typed, signed.2⟩) signed.1
  | array element items ih =>
      have parts := whole.of_item
      obtain ⟨rfl, _, _⟩ := whole
      rw [Value.normal, Value.normals_eq_map]
      refine Value.isOf_array (List.forall_mem_map.mpr fun item member => ?_)
      exact ih item member (parts item member)
  | dictionary keyTy valueTy entries ih =>
      have parts := whole.of_entry
      obtain ⟨rfl, _, _⟩ := whole
      rw [Value.normal, Value.normalEntries_eq_map]
      refine Value.isOf_dictionary (forall_sortEntries
        (List.forall_mem_map.mpr fun entry member => ?_))
      exact ⟨(ih entry member).1 (parts entry member).1, (ih entry member).2 (parts entry member).2⟩
  | struct fields ih =>
      have parts := whole.of_field
      obtain ⟨rfl, _, _⟩ := whole
      rw [Value.normal, Value.normals_eq_map, Value.ty, Value.types_eq_map]
      refine Value.isOf_struct ?_
      rw [List.forall₂_map_left_iff, List.forall₂_map_right_iff, List.forall₂_same]
      exact fun field member => ih field member (parts field member)

theorem Value.Every.normal {test : Ty → Prop} {value : Value}
    (every : value.Every fun part => test part.ty) :
    value.normal.Every fun part => test part.ty := by
  induction value using Value.memberwise with
  | scalar value => exact every
  | isVariant content ih => exact ⟨every.1, ih every.2⟩
  | array element items ih =>
      have parts := Value.allEvery_iff.mp every.2
      rw [Value.normal, Value.normals_eq_map]
      refine ⟨every.1, Value.allEvery_iff.mpr (List.forall_mem_map.mpr fun item member => ?_)⟩
      exact ih item member (parts item member)
  | dictionary keyTy valueTy entries ih =>
      have parts := Value.entriesEvery_iff.mp every.2
      rw [Value.normal, Value.normalEntries_eq_map]
      refine ⟨every.1, Value.entriesEvery_iff.mpr (forall_sortEntries
        (List.forall_mem_map.mpr fun entry member => ?_))⟩
      exact ⟨(ih entry member).1 (parts entry member).1, (ih entry member).2 (parts entry member).2⟩
  | struct fields ih =>
      have parts := Value.allEvery_iff.mp every.2
      have same := Value.ty_normal (.struct fields)
      rw [Value.normal] at same ⊢
      constructor
      · dsimp only
        rw [same]
        exact every.1
      · rw [Value.normals_eq_map]
        refine Value.allEvery_iff.mpr (List.forall_mem_map.mpr fun field member => ?_)
        exact ih field member (parts field member)

/-- Whether the keys of a value rise, if it is a dictionary. -/
def Value.Rises : Value → Prop
  | .dictionary _ _ entries => Rising entries
  | _ => True

/-- A value whose dictionaries are sorted at all depths is its own sorted form. -/
theorem Value.normal_eq_self {value : Value} (sorted : value.Every Value.Rises) :
    value.normal = value := by
  induction value using Value.memberwise with
  | scalar value => rfl
  | isVariant content ih => rw [Value.normal, ih sorted.2]
  | array element items ih =>
      have parts := Value.allEvery_iff.mp sorted.2
      have same : items.map Value.normal = items.map id :=
        List.map_congr_left fun item member => ih item member (parts item member)
      rw [Value.normal, Value.normals_eq_map, same, List.map_id]
  | dictionary keyTy valueTy entries ih =>
      have parts := Value.entriesEvery_iff.mp sorted.2
      have same : entries.map (Prod.map Value.normal Value.normal) = entries.map id :=
        List.map_congr_left fun entry member =>
          Prod.ext ((ih entry member).1 (parts entry member).1)
            ((ih entry member).2 (parts entry member).2)
      rw [Value.normal, Value.normalEntries_eq_map, same, List.map_id,
        sortEntries_of_rising sorted.1]
  | struct fields ih =>
      have parts := Value.allEvery_iff.mp sorted.2
      have same : fields.map Value.normal = fields.map id :=
        List.map_congr_left fun field member => ih field member (parts field member)
      rw [Value.normal, Value.normals_eq_map, same, List.map_id]

end SessionProbe.Wire
