import SessionProbe.Proofs.Wire.Frame
import SessionProbe.Proofs.Wire.RoundTrip
import SessionProbe.Reply

set_option autoImplicit false

/-!
Replies to the values of a message. A reply gives the text of each value that was sent, unless the
signature leaves no room for the parentheses of a struct.
-/

namespace SessionProbe

open Wire

/-! ### The types of a body -/

/-- A signature that is no single struct gives the types that it was written for, if it leaves room
for two parentheses. -/
theorem Frame.types_eq {frame : Frame} {types : List Ty} (complete : Ty.AllComplete types)
    (written : frame.signature = Ty.signatures types)
    (plain : ∀ fields, types ≠ [.struct fields]) :
    frame.types =
      if 255 < Text.Utf8.size frame.signature + 2 then
        .error (.longSignature (Text.Utf8.size frame.signature + 2))
      else .ok types := by
  unfold Frame.types
  rw [written, Ty.ofSignature_signatures complete]
  split
  · rename_i fault broken
    cases broken
  · rename_i fields single
    cases single
    exact absurd rfl (plain fields)
  · rename_i others _ same
    cases same
    rfl

theorem Ty.isEmpty_signatures_cons (ty : Ty) (rest : List Ty) :
    (Ty.signatures (ty :: rest)).isEmpty = false := by
  obtain ⟨first, others, shape, _⟩ := Ty.toList_eq_cons ty
  rw [Bool.eq_false_iff]
  intro empty
  have none : (Ty.signatures (ty :: rest)).toList = [] := by
    rw [String.isEmpty_iff.mp empty]
    rfl
  rw [Ty.toList_signatures_cons, shape] at none
  exact List.cons_ne_nil _ _ none

/-! ### Replies -/

/-- The reply to values that can be sent: the text of each value in order, or the fault of a
signature that leaves no room for two parentheses. -/
theorem Reply.ofFrame_eq_ite (order : ByteOrder) {values : List Value}
    (fits : Value.AreBody values) (some : values ≠ [])
    (plain : ∀ fields, Value.types values ≠ [.struct fields]) :
    Reply.ofFrame (Frame.ofValues order values) =
      if 255 < Text.Utf8.size (Ty.signatures (Value.types values)) + 2 then
        .error (.reply
          (Fault.longSignature (Text.Utf8.size (Ty.signatures (Value.types values)) + 2)).message)
      else
        .ok { signature := Ty.signatures (Value.types values), values := values.map Value.render } := by
  have nonempty : (Frame.ofValues order values).signature.isEmpty = false := by
    cases values with
    | nil => exact absurd rfl some
    | cons value rest => exact Ty.isEmpty_signatures_cons _ _
  have types : (Frame.ofValues order values).types =
      if 255 < Text.Utf8.size (Ty.signatures (Value.types values)) + 2 then
        .error (.longSignature (Text.Utf8.size (Ty.signatures (Value.types values)) + 2))
      else .ok (Value.types values) :=
    Frame.types_eq fits.complete rfl plain
  have read : (Frame.ofValues order values).body.values (Value.types values) = .ok values :=
    Body.values_marshalAll order fits
  unfold Reply.ofFrame Frame.values
  rw [nonempty, if_neg Bool.false_ne_true, types]
  by_cases long : 255 < Text.Utf8.size (Ty.signatures (Value.types values)) + 2
  · rw [if_pos long, if_pos long]
  · rw [if_neg long, if_neg long]
    dsimp only
    rw [read]
    rfl

/-- Decoding undoes marshalling. The values of a body whose signature does not begin with a struct
give one text each, in order, in either byte order, as long as the signature takes 253 octets at
most; a longer one is refused for its length, and again in either byte order. -/
theorem Reply.ofFrame_ofValues {values : List Value} (fits : Value.AreBody values)
    (some : Ty.signatures (Value.types values) ≠ "")
    (plain : (Ty.signatures (Value.types values)).toList.head? ≠ Option.some '(') :
    (Text.Utf8.size (Ty.signatures (Value.types values)) ≤ 253 →
      ∀ order, Reply.ofFrame (Frame.ofValues order values) =
        .ok { signature := Ty.signatures (Value.types values),
              values := values.map Value.render }) ∧
    (253 < Text.Utf8.size (Ty.signatures (Value.types values)) →
      ∀ order, Reply.ofFrame (Frame.ofValues order values) =
        .error (.reply (Fault.longSignature
          (Text.Utf8.size (Ty.signatures (Value.types values)) + 2)).message)) ∧
    Reply.ofFrame (Frame.ofValues .little values) = Reply.ofFrame (Frame.ofValues .big values) := by
  have notEmpty : values ≠ [] := by
    rintro rfl
    exact some rfl
  have noStruct (fields : List Ty) : Value.types values ≠ [.struct fields] := by
    intro single
    rw [single, Ty.toList_signatures_cons, Ty.toList_struct] at plain
    exact plain rfl
  have reply (order : ByteOrder) := Reply.ofFrame_eq_ite order fits notEmpty noStruct
  refine ⟨fun short order => ?_, fun long order => ?_, ?_⟩
  · rw [reply order, if_neg (by omega)]
  · rw [reply order, if_pos (by omega)]
  · rw [reply .little, reply .big]

/-- A byte, an empty array of structs and a dictionary of variants that hold an array and a
struct. -/
def nestedBody : List Value :=
  [.scalar (.byte 7),
    .array (.struct [.basic .byte, .basic .int64]) [],
    .dictionary (.basic .string) .variant
      [(.scalar (.string "b"),
          .variant (.array (.basic .double) [.scalar (.double ⟨0x3FF0000000000000⟩)])),
        (.scalar (.string "k"),
          .variant (.struct [.scalar (.boolean true), .scalar (.objectPath "/a")]))]]

theorem nestedBody_areBody : Value.AreBody nestedBody where
  typed := by
    simp [nestedBody, Value.FieldsTyped, Value.IsTyped, Value.AllTyped, Value.EntriesTyped,
      Value.ty, Scalar.kind]
  complete := by
    simp [nestedBody, Value.types, Value.ty, Scalar.kind, Ty.AllComplete, Ty.IsComplete]
  sendable := by
    simp [nestedBody, Value.AllSendable, Value.EntriesSendable, Value.IsSendable,
      Scalar.IsSendable, Value.ty, Value.types, Scalar.kind, Ty.IsComplete, Ty.AllComplete]
    decide
  depth := by decide
  length := by decide

/-- The gap in front of the absent structs is there, and each variant starts a signature anew. -/
theorem nestedBody_decoded :
    Value.AreBody nestedBody ∧
      Ty.signatures (Value.types nestedBody) ≠ "" ∧
      (Ty.signatures (Value.types nestedBody)).toList.head? ≠ some '(' ∧
      Text.Utf8.size (Ty.signatures (Value.types nestedBody)) ≤ 253 ∧
      ∀ order, Reply.ofFrame (Frame.ofValues order nestedBody) =
        .ok { signature := "ya(yx)a\x7bsv\x7d",
              values := ["7", "@a(yx) []",
                "\x7b\"b\": <[1.]>, \"k\": <(true, objectpath \"/a\")>\x7d"] } := by
  have some : Ty.signatures (Value.types nestedBody) ≠ "" := by decide
  have plain : (Ty.signatures (Value.types nestedBody)).toList.head? ≠ Option.some '(' := by
    decide
  have short : Text.Utf8.size (Ty.signatures (Value.types nestedBody)) ≤ 253 := by decide
  refine ⟨nestedBody_areBody, some, plain, short, fun order => ?_⟩
  exact (Reply.ofFrame_ofValues nestedBody_areBody some plain).1 short order

/-- Many bytes side by side, whose signature has an octet for each. -/
def manyBytes (count : Nat) : List Value :=
  List.replicate count (.scalar (.byte 7))

theorem manyBytes_wellFormed (count : Nat) :
    Value.FieldsTyped (manyBytes count) ∧ Ty.AllComplete (Value.types (manyBytes count)) ∧
      Value.AllSendable (manyBytes count) := by
  induction count with
  | zero => exact ⟨trivial, trivial, trivial⟩
  | succ count ih =>
      obtain ⟨typed, complete, sendable⟩ := ih
      exact ⟨⟨trivial, typed⟩, ⟨trivial, complete⟩, ⟨trivial, sendable⟩⟩

theorem manyBytes_signature (count : Nat) :
    (Ty.signatures (Value.types (manyBytes count))).toList = List.replicate count 'y' := by
  induction count with
  | zero => rfl
  | succ count ih =>
      change (Ty.signatures (.basic .byte :: Value.types (manyBytes count))).toList = _
      rw [Ty.toList_signatures_cons, ih, Ty.toList_basic]
      rfl

/-- A signature of 254 octets is within the limit of 255 and still refused. -/
theorem longSignature_refused :
    ¬∀ values : List Value, Value.AreBody values →
      Ty.signatures (Value.types values) ≠ "" →
      (Ty.signatures (Value.types values)).toList.head? ≠ some '(' →
      Text.Utf8.size (Ty.signatures (Value.types values)) ≤ 255 →
      ∀ order, Reply.ofFrame (Frame.ofValues order values) =
        .ok { signature := Ty.signatures (Value.types values),
              values := values.map Value.render } := by
  intro claim
  obtain ⟨typed, complete, sendable⟩ := manyBytes_wellFormed 254
  have fits : Value.AreBody (manyBytes 254) :=
    ⟨typed, complete, sendable, by decide +kernel, by decide +kernel⟩
  have signature := manyBytes_signature 254
  have size : Text.Utf8.size (Ty.signatures (Value.types (manyBytes 254))) = 254 := by
    rw [Ty.size_signatures, signature, List.length_replicate]
  have some : Ty.signatures (Value.types (manyBytes 254)) ≠ "" := by
    intro empty
    rw [empty] at signature
    cases signature
  have plain : (Ty.signatures (Value.types (manyBytes 254))).toList.head? ≠ Option.some '(' := by
    rw [signature]
    decide
  have noStruct (fields : List Ty) : Value.types (manyBytes 254) ≠ [.struct fields] := by
    rintro ⟨⟩
  have decoded := claim (manyBytes 254) fits some plain (by rw [size]; decide) .little
  rw [Reply.ofFrame_eq_ite .little fits (by decide) noStruct, size] at decoded
  cases decoded

end SessionProbe
