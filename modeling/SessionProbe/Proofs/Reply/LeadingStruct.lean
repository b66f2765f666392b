import SessionProbe.Proofs.Reply.RoundTrip

set_option autoImplicit false

/-!
Replies that begin with a struct. A body is read as the struct of its values, and a signature that
is one struct already counts as this struct: a lone struct is taken apart, and its fields become the
values of the reply. With another value behind it a leading struct is one value like any other.
-/

namespace SessionProbe

open Wire

/-! ### A lone struct -/

theorem Wire.Value.AreSound.fields {fields : List Value} (sound : Value.AreSound [.struct fields]) :
    Value.AreSound fields := by
  obtain ⟨typed, complete, sendable, length⟩ := sound
  have octets : Value.marshalAll .little 0 [.struct fields] =
      Value.marshalAll .little 0 fields := by
    simp [Value.marshalAll, Value.marshal, gap, padding]
  rw [octets] at length
  exact ⟨typed.1, complete.1.2, sendable.1, length⟩

theorem Wire.Value.AreBody.fields {fields : List Value} (fits : Value.AreBody [.struct fields]) :
    Value.AreBody fields := by
  obtain ⟨typed, complete, sendable, length⟩ := fits.sound.fields
  have inner : Value.depths fields + 1 ≤ 31 :=
    Nat.le_trans (Nat.le_max_left _ _) fits.depth
  exact ⟨typed, complete, sendable, by omega, length⟩

theorem Wire.Value.AreBody.head {first : Value} {rest : List Value}
    (fits : Value.AreBody (first :: rest)) : Value.AreBody [first] := by
  obtain ⟨typed, complete, sendable, depth, length⟩ := fits
  have here : Value.depths [first] ≤ Value.depths (first :: rest) := by
    simp only [Value.depths]
    omega
  rw [Value.marshalAll, List.length_append] at length
  refine ⟨⟨typed.1, trivial⟩, ⟨complete.1, trivial⟩, ⟨sendable.1, trivial⟩, by omega, ?_⟩
  rw [Value.marshalAll, Value.marshalAll, List.append_nil]
  omega

/-- A lone struct stands at the start of a body, so that no gap comes before its fields. -/
theorem Frame.ofValues_struct_body (order : ByteOrder) (fields : List Value) :
    (Frame.ofValues order [.struct fields]).body = (Frame.ofValues order fields).body := by
  simp [Frame.ofValues, Value.marshalAll, Value.marshal, gap, padding]

theorem Frame.types_struct (order : ByteOrder) {fields : List Value}
    (complete : Ty.AllComplete (Value.types [.struct fields])) :
    (Frame.ofValues order [.struct fields]).types = .ok (Value.types fields) := by
  unfold Frame.types
  have signature : Ty.ofSignature (Frame.ofValues order [.struct fields]).signature =
      .ok [.struct (Value.types fields)] :=
    Ty.ofSignature_signatures complete
  rw [signature]

/-- The reply to a lone struct gives a text for each field. -/
theorem Reply.ofFrame_struct (order : ByteOrder) {fields : List Value}
    (fits : Value.AreBody [.struct fields]) :
    Reply.ofFrame (Frame.ofValues order [.struct fields]) =
      .ok { signature := Ty.signatures (Value.types [.struct fields]),
            values := fields.map Value.render } := by
  apply Reply.ofFrame_of_values
  · exact Ty.isEmpty_signatures_cons _ _
  · unfold Frame.values
    rw [Frame.types_struct order fits.complete, Frame.ofValues_struct_body]
    exact Body.values_marshalAll order fits.fields

/-! ### Structs and what stands behind them -/

/-- What the reply to a body is that begins with a struct, in either byte order. If there is another
value, each value gives its text, the struct among them, as long as the signature takes 253 octets
at most; a longer one is refused. If the struct is all there is, its fields take its place. -/
theorem Reply.ofFrame_struct_cons {fields rest : List Value}
    (fits : Value.AreBody (.struct fields :: rest)) (order : ByteOrder) :
    (rest ≠ [] → Text.Utf8.size (Ty.signatures (Value.types (.struct fields :: rest))) ≤ 253 →
      Reply.ofFrame (Frame.ofValues order (.struct fields :: rest)) =
        .ok { signature := Ty.signatures (Value.types (.struct fields :: rest)),
              values := (Value.struct fields :: rest).map Value.render }) ∧
    (rest ≠ [] → 253 < Text.Utf8.size (Ty.signatures (Value.types (.struct fields :: rest))) →
      Reply.ofFrame (Frame.ofValues order (.struct fields :: rest)) =
        .error (.reply (Fault.longSignature
          (Text.Utf8.size (Ty.signatures (Value.types (.struct fields :: rest))) + 2)).message)) ∧
    (rest = [] →
      Reply.ofFrame (Frame.ofValues order (.struct fields :: rest)) =
        .ok { signature := Ty.signatures (Value.types (.struct fields :: rest)),
              values := fields.map Value.render }) := by
  have several (more : rest ≠ []) (inner : List Ty) :
      Value.types (.struct fields :: rest) ≠ [.struct inner] := by
    cases rest with
    | nil => exact absurd rfl more
    | cons second others =>
        intro single
        cases single
  refine ⟨?_, ?_, ?_⟩
  · intro more short
    rw [Reply.ofFrame_eq_ite order fits (List.cons_ne_nil _ _) (several more), if_neg (by omega)]
  · intro more long
    rw [Reply.ofFrame_eq_ite order fits (List.cons_ne_nil _ _) (several more), if_pos (by omega)]
  · rintro rfl
    exact Reply.ofFrame_struct order fits

/-- A text and a number in one struct. -/
def pair : Value :=
  .struct [.scalar (.string "ok"), .scalar (.uint32 3)]

theorem pairs_areBody : Value.AreBody [pair, pair] where
  typed := by simp [pair, Value.FieldsTyped, Value.IsTyped]
  complete := by
    simp [pair, Value.types, Value.ty, Scalar.kind, Ty.AllComplete, Ty.IsComplete]
  sendable := by
    simp [pair, Value.AllSendable, Value.IsSendable, Scalar.IsSendable]
  depth := by decide
  length := by decide

theorem pairs_decoded :
    Value.AreBody [pair, pair] ∧ [pair] ≠ [] ∧
      Text.Utf8.size (Ty.signatures (Value.types [pair, pair])) ≤ 253 ∧
      Reply.ofFrame (Frame.ofValues .big [pair, pair]) =
        .ok { signature := "(su)(su)",
              values := ["(\"ok\", uint32 3)", "(\"ok\", uint32 3)"] } := by
  have more : [pair] ≠ [] := List.cons_ne_nil _ _
  have short : Text.Utf8.size (Ty.signatures (Value.types [pair, pair])) ≤ 253 := by decide
  exact ⟨pairs_areBody, more, short, (Reply.ofFrame_struct_cons pairs_areBody .big).1 more short⟩

/-- A struct that is the only value of a body is spread over the reply. -/
theorem pair_spread :
    ¬∀ values : List Value, Value.AreBody values →
      (Ty.signatures (Value.types values)).toList.head? = some '(' →
      ∀ order, Reply.ofFrame (Frame.ofValues order values) =
        .ok { signature := Ty.signatures (Value.types values),
              values := values.map Value.render } := by
  intro claim
  have begins : (Ty.signatures (Value.types [pair])).toList.head? = some '(' := by decide
  have alone : Value.AreBody [pair] := pairs_areBody.head
  have one := claim [pair] alone begins .little
  have two := Reply.ofFrame_struct .little alone
  have same := congrArg Reply.values (Except.ok.inj (one.symm.trans two))
  exact absurd (congrArg List.length same) (by decide)

end SessionProbe
