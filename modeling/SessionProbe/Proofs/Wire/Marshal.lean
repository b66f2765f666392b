import SessionProbe.Proofs.Wire.Numbers
import SessionProbe.Proofs.Wire.Signature
import SessionProbe.Proofs.Wire.Slice

set_option autoImplicit false

/-!
Which values can be sent, and how their octets start. `Value.marshal_eq_padding` splits off the gap
in front of a value, so that the octets behind it start at a multiple of its alignment.
-/

namespace SessionProbe.Wire

mutual

/-- Whether all that a value holds can be sent. A variant states the type of its content in a
signature of its own, whose length one octet tells. -/
def Value.IsSendable : Value → Prop
  | .scalar value => value.IsSendable
  | .variant content =>
    content.ty.IsComplete ∧ Text.Utf8.size content.ty.signature ≤ 255 ∧ content.IsSendable
  | .array _ items => Value.AllSendable items
  | .dictionary _ _ entries => Value.EntriesSendable entries
  | .struct fields => Value.AllSendable fields

def Value.AllSendable : List Value → Prop
  | [] => True
  | value :: rest => value.IsSendable ∧ Value.AllSendable rest

def Value.EntriesSendable : List (Value × Value) → Prop
  | [] => True
  | (key, value) :: rest => key.IsSendable ∧ value.IsSendable ∧ Value.EntriesSendable rest

end

/-- Whether values make up the body of a message: 31 levels of containers lie inside each other at
most, and the length of the body fits the four octets in which a message tells it. -/
structure Value.AreBody (values : List Value) : Prop where
  typed : Value.FieldsTyped values
  complete : Ty.AllComplete (Value.types values)
  sendable : Value.AllSendable values
  depth : Value.depths values ≤ 31
  length : (Value.marshalAll .little 0 values).length < 2 ^ 32

/-! ### Parts of values -/

section Members

variable {value : Value} {values : List Value} {entry : Value × Value}
  {entries : List (Value × Value)} {ty keyTy valueTy : Ty}

theorem Value.allSendable_iff :
    Value.AllSendable values ↔ ∀ value ∈ values, value.IsSendable := by
  induction values with
  | nil => simp [Value.AllSendable]
  | cons value rest ih => rw [Value.AllSendable, ih, List.forall_mem_cons]

theorem Value.entriesSendable_iff :
    Value.EntriesSendable entries ↔
      ∀ entry ∈ entries, entry.1.IsSendable ∧ entry.2.IsSendable := by
  induction entries with
  | nil => simp [Value.EntriesSendable]
  | cons entry rest ih => rw [Value.EntriesSendable, ih, List.forall_mem_cons, and_assoc]

theorem Value.allTyped_iff :
    Value.AllTyped ty values ↔ ∀ value ∈ values, value.ty = ty ∧ value.IsTyped := by
  induction values with
  | nil => simp [Value.AllTyped]
  | cons value rest ih => rw [Value.AllTyped, ih, List.forall_mem_cons, and_assoc]

theorem Value.entriesTyped_iff :
    Value.EntriesTyped keyTy valueTy entries ↔
      ∀ entry ∈ entries,
        (entry.1.ty = keyTy ∧ entry.1.IsTyped) ∧ entry.2.ty = valueTy ∧ entry.2.IsTyped := by
  induction entries with
  | nil => simp [Value.EntriesTyped]
  | cons entry rest ih =>
      rw [Value.EntriesTyped, ih, List.forall_mem_cons]
      simp only [and_assoc]

theorem Value.fieldsTyped_iff :
    Value.FieldsTyped values ↔ ∀ value ∈ values, value.IsTyped := by
  induction values with
  | nil => simp [Value.FieldsTyped]
  | cons value rest ih => rw [Value.FieldsTyped, ih, List.forall_mem_cons]

theorem Value.isComplete_of_mem (complete : Ty.AllComplete (Value.types values))
    (member : value ∈ values) : value.ty.IsComplete := by
  induction values with
  | nil => exact absurd member List.not_mem_nil
  | cons first rest ih =>
      rcases List.mem_cons.mp member with rfl | later
      · exact complete.1
      · exact ih complete.2 later

end Members

/-! ### The start of a value -/

/-- The octets of a value are the gap in front of it and the octets from behind the gap on. -/
theorem Value.marshal_eq_padding (order : ByteOrder) (position : Nat) (value : Value) :
    value.marshal order position =
      padding value.ty.alignment position ++
        value.marshal order (position + gap value.ty.alignment position) := by
  have aligned (width n : Nat) : order.aligned width position n =
      padding width position ++ order.aligned width (position + gap width position) n := by
    simp [ByteOrder.aligned]
  cases value with
  | scalar value =>
      simp only [Value.marshal, Value.ty, Ty.alignment]
      cases value with
      | byte value => simp [Scalar.marshal, Scalar.kind, Basic.alignment, padding]
      | signature value => simp [Scalar.marshal, Scalar.kind, Basic.alignment, padding]
      | string value | objectPath value =>
          simp only [Scalar.marshal, Scalar.kind, Basic.alignment, ByteOrder.text]
          rw [aligned]
          simp only [List.append_assoc]
      | _ =>
          simp only [Scalar.marshal, Scalar.kind, Basic.alignment]
          exact aligned _ _
  | «variant» content => simp [Value.marshal, Value.ty, Ty.alignment, padding]
  | array element items =>
      simp only [Value.marshal, Value.ty, Ty.alignment, ByteOrder.elements, gap_add_gap]
      rw [aligned]
      simp only [Nat.add_zero, List.append_assoc]
  | dictionary key value entries =>
      simp only [Value.marshal, Value.ty, Ty.alignment, ByteOrder.elements, gap_add_gap]
      rw [aligned]
      simp only [Nat.add_zero, List.append_assoc]
  | struct fields => simp [Value.marshal, Value.ty, Ty.alignment]

theorem ByteOrder.length_aligned (order : ByteOrder) (width position n : Nat) :
    (order.aligned width position n).length = gap width position + width := by
  rw [ByteOrder.aligned, List.length_append, length_padding, ByteOrder.length_octets]

theorem ByteOrder.length_elements (order : ByteOrder) (position alignment : Nat)
    (content : Nat → List UInt8) :
    (order.elements position alignment content).length =
      gap 4 position + 4 + gap alignment (position + gap 4 position + 4) +
        (content (position + gap 4 position + 4 +
          gap alignment (position + gap 4 position + 4))).length := by
  simp only [ByteOrder.elements, List.length_append, ByteOrder.length_aligned, length_padding]

theorem Value.length_marshal_pos (order : ByteOrder) (position : Nat) (value : Value)
    (complete : value.ty.IsComplete) : 0 < (value.marshal order position).length := by
  match value with
  | .scalar value =>
      rw [Value.marshal]
      cases value with
      | byte value => exact Nat.one_pos
      | signature value => exact Nat.succ_pos _
      | string value | objectPath value =>
          rw [Scalar.marshal, ByteOrder.text, List.length_append]
          exact Nat.succ_pos _
      | _ =>
          rw [Scalar.marshal, ByteOrder.length_aligned]
          omega
  | .variant content =>
      rw [Value.marshal, List.length_append]
      exact Nat.add_pos_left (Nat.succ_pos _) _
  | .array element items =>
      rw [Value.marshal, ByteOrder.length_elements]
      omega
  | .dictionary key value entries =>
      rw [Value.marshal, ByteOrder.length_elements]
      omega
  | .struct [] => exact absurd rfl complete.1
  | .struct (field :: rest) =>
      have first := Value.length_marshal_pos order (position + gap 8 position) field complete.2.1
      simp only [Value.marshal, Value.marshalAll, List.length_append]
      omega

/-! ### Lengths -/

theorem Scalar.length_marshal_eq (order other : ByteOrder) (position : Nat) (value : Scalar) :
    (value.marshal order position).length = (value.marshal other position).length := by
  cases value <;>
    simp only [Scalar.marshal, ByteOrder.text, List.length_append, ByteOrder.length_aligned]

mutual

theorem Value.length_marshal_eq (order other : ByteOrder) (position : Nat) (value : Value) :
    (value.marshal order position).length = (value.marshal other position).length := by
  cases value with
  | scalar value => exact Scalar.length_marshal_eq order other position value
  | «variant» content =>
      rw [Value.marshal, Value.marshal, List.length_append, List.length_append,
        Value.length_marshal_eq order other _ content]
  | array element items =>
      rw [Value.marshal, Value.marshal, ByteOrder.length_elements, ByteOrder.length_elements,
        Value.length_marshalAll_eq order other _ items]
  | dictionary key value entries =>
      rw [Value.marshal, Value.marshal, ByteOrder.length_elements, ByteOrder.length_elements,
        Value.length_marshalEntries_eq order other _ entries]
  | struct fields =>
      rw [Value.marshal, Value.marshal, List.length_append, List.length_append,
        Value.length_marshalAll_eq order other _ fields]

theorem Value.length_marshalAll_eq (order other : ByteOrder) (position : Nat)
    (values : List Value) :
    (Value.marshalAll order position values).length =
      (Value.marshalAll other position values).length := by
  cases values with
  | nil => rfl
  | cons value rest =>
      rw [Value.marshalAll, Value.marshalAll, List.length_append, List.length_append,
        Value.length_marshal_eq order other position value,
        Value.length_marshalAll_eq order other _ rest]

theorem Value.length_marshalEntries_eq (order other : ByteOrder) (position : Nat)
    (entries : List (Value × Value)) :
    (Value.marshalEntries order position entries).length =
      (Value.marshalEntries other position entries).length := by
  cases entries with
  | nil => rfl
  | cons entry rest =>
      obtain ⟨key, value⟩ := entry
      simp only [Value.marshalEntries, List.length_append, length_padding,
        Value.length_marshal_eq order other _ key, Value.length_marshal_eq order other _ value,
        Value.length_marshalEntries_eq order other _ rest]

end

end SessionProbe.Wire
