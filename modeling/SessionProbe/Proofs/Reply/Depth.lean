import SessionProbe.Proofs.Reply.RoundTrip
import SessionProbe.Proofs.Wire.Normal
import SessionProbe.Proofs.Wire.Unlimited

set_option autoImplicit false

/-!
How deep the values of a reply are. What a body holds is told without any limit; a reply renders it
just if it lies within the limits, and a body that goes deeper is refused as a whole.
-/

namespace SessionProbe

open Wire

/-! ### Depth -/

section Depth

variable {counted : Container} {bound : Nat}

mutual

theorem Wire.Value.layers_any (value : Value) : value.layers .any = value.depth := by
  cases value with
  | scalar value => rfl
  | «variant» content => rw [Value.layers, Value.depth, Value.layers_any content]; rfl
  | array element items => rw [Value.layers, Value.depth, Value.layersAll_any items]; rfl
  | dictionary key value entries =>
      rw [Value.layers, Value.depth, Value.entryLayers_any entries]; rfl
  | struct fields => rw [Value.layers, Value.depth, Value.layersAll_any fields]; rfl

theorem Wire.Value.layersAll_any (values : List Value) :
    Value.layersAll .any values = Value.depths values := by
  cases values with
  | nil => rfl
  | cons value rest =>
      rw [Value.layersAll, Value.depths, Value.layers_any value, Value.layersAll_any rest]

theorem Wire.Value.entryLayers_any (entries : List (Value × Value)) :
    Value.entryLayers .any entries = Value.entryDepths entries := by
  cases entries with
  | nil => rfl
  | cons entry rest =>
      obtain ⟨key, value⟩ := entry
      rw [Value.entryLayers, Value.entryDepths, Value.layers_any key, Value.layers_any value,
        Value.entryLayers_any rest]

end

/-- Sorting the dictionaries in a value makes it no deeper. -/
theorem Wire.Value.layers_normal_le (counted : Container) (value : Value) :
    value.normal.layers counted ≤ value.layers counted := by
  induction value using Value.memberwise with
  | scalar value => exact Nat.le_refl _
  | isVariant content ih => exact Nat.add_le_add_right ih _
  | array element items ih =>
      rw [Value.normal, Value.normals_eq_map, Value.layers, Value.layers]
      refine Nat.add_le_add_right (Value.layersAll_le_iff.mpr ?_) _
      refine List.forall_mem_map.mpr fun item member => Nat.le_trans (ih item member) ?_
      exact Value.layersAll_le_iff.mp (Nat.le_refl _) item member
  | dictionary keyTy valueTy entries ih =>
      rw [Value.normal, Value.normalEntries_eq_map, Value.layers, Value.layers]
      refine Nat.add_le_add_right (Value.entryLayers_le_iff.mpr ?_) _
      let fits (part : Value) := part.layers counted ≤ Value.entryLayers counted entries
      refine @forall_sortEntries fits fits _ (List.forall_mem_map.mpr fun entry member => ?_)
      have here := @Value.layers_le_of_mem_entries counted entry entries member
      exact ⟨Nat.le_trans (ih entry member).1 here.1, Nat.le_trans (ih entry member).2 here.2⟩
  | struct fields ih =>
      rw [Value.normal, Value.normals_eq_map, Value.layers, Value.layers]
      refine Nat.add_le_add_right (Value.layersAll_le_iff.mpr ?_) _
      refine List.forall_mem_map.mpr fun field member => Nat.le_trans (ih field member) ?_
      exact Value.layersAll_le_iff.mp (Nat.le_refl _) field member

end Depth

/-! ### Replies -/

/-- The values that a frame holds, whatever their depth. -/
def Frame.Bears (frame : Frame) (values : List Value) : Prop :=
  ∃ types fuel, frame.types = .ok types ∧ frame.body.unlimited fuel types = .ok values

section Frames

variable {frame : Frame} {values : List Value}

theorem Frame.values_eq_ok_iff :
    frame.values = .ok values ↔ frame.Bears values ∧ (Value.struct values).IsWithinLimits := by
  unfold Frame.values Frame.Bears
  cases frame.types with
  | error fault =>
      constructor
      · intro read
        cases read
      · rintro ⟨⟨types, fuel, known, _⟩, _⟩
        cases known
  | ok types =>
      dsimp only
      rw [Body.values_eq_ok_iff]
      refine and_congr_left fun _ => ⟨?_, ?_⟩
      · rintro ⟨fuel, whole⟩
        exact ⟨types, fuel, rfl, whole⟩
      · rintro ⟨_, fuel, known, whole⟩
        cases known
        exact ⟨fuel, whole⟩

theorem Frame.values_beyond (bears : frame.Bears values)
    (beyond : ¬(Value.struct values).IsWithinLimits) : ∃ fault, frame.values = .error fault := by
  obtain ⟨types, fuel, known, whole⟩ := bears
  unfold Frame.values
  rw [known]
  exact (Body.values_of_unlimited whole).2 beyond

theorem Frame.Bears.eq_nil (bears : frame.Bears values) (empty : frame.signature.isEmpty = true) :
    values = [] := by
  obtain ⟨types, fuel, known, whole⟩ := bears
  unfold Frame.types at known
  rw [String.isEmpty_iff.mp empty] at known
  cases known
  cases whole
  rfl

theorem Wire.Value.depth_le_of_within (within : (Value.struct values).IsWithinLimits) :
    ∀ value ∈ values, value.depth < 64 := by
  have all := within .any
  rw [Value.layers_any, Value.depth, ← Value.layersAll_any] at all
  intro value member
  rw [← Value.layers_any]
  have here := Value.layersAll_le_iff.mp (Nat.le_of_succ_le_succ all) value member
  exact Nat.lt_succ_of_le here

end Frames

namespace Reply

variable {frame : Frame} {values : List Value}

theorem ofFrame_of_bears (bears : frame.Bears values)
    (within : (Value.struct values).IsWithinLimits) :
    ofFrame frame =
      .ok { signature := frame.signature, values := values.map Value.render } := by
  cases empty : frame.signature.isEmpty with
  | true =>
      cases bears.eq_nil empty
      rw [ofFrame, if_pos empty, String.isEmpty_iff.mp empty]
      rfl
  | false => exact ofFrame_of_values empty (Frame.values_eq_ok_iff.mpr ⟨bears, within⟩)

theorem ofFrame_of_beyond (bears : frame.Bears values)
    (beyond : ¬(Value.struct values).IsWithinLimits) :
    ∃ text, ofFrame frame = .error (.reply text) := by
  cases empty : frame.signature.isEmpty with
  | true =>
      cases bears.eq_nil empty
      exact absurd (fun counted => by cases counted <;> decide) beyond
  | false =>
      obtain ⟨fault, failed⟩ := Frame.values_beyond bears beyond
      refine ⟨fault.message, ?_⟩
      rw [ofFrame, empty, if_neg Bool.false_ne_true, failed]

theorem bears_of_ofFrame {reply : Reply} (decoded : ofFrame frame = .ok reply) :
    ∃ values, (frame.signature.isEmpty = true ∧ values = [] ∨ frame.Bears values) ∧
      (Value.struct values).IsWithinLimits ∧ reply.values = values.map Value.render := by
  rcases ofFrame_eq_ok decoded with ⟨empty, rfl⟩ | ⟨_, values, read, rfl⟩
  · exact ⟨[], .inl ⟨empty, rfl⟩, fun counted => by cases counted <;> decide, rfl⟩
  · obtain ⟨bears, within⟩ := Frame.values_eq_ok_iff.mp read
    exact ⟨values, .inr bears, within, rfl⟩

/-- What becomes of a frame, by how deep the containers in its body lie in each other. -/
structure DepthLaw (frame : Frame) : Prop where
  /-- What is rendered was held by the frame and lies within the limits, also when it is sorted. -/
  rendered (reply : Reply) : ofFrame frame = .ok reply →
    ∃ values, (frame.signature.isEmpty = true ∧ values = [] ∨ frame.Bears values) ∧
      (Value.struct values).IsWithinLimits ∧ reply.values = values.map Value.render ∧
      ∀ value ∈ values, value.depth ≤ 64 ∧ value.normal.depth ≤ 64
  within (values : List Value) : frame.Bears values → (Value.struct values).IsWithinLimits →
    ofFrame frame = .ok { signature := frame.signature, values := values.map Value.render }
  beyond (values : List Value) : frame.Bears values → ¬(Value.struct values).IsWithinLimits →
    ∃ text, ofFrame frame = .error (.reply text)
  deeper (values : List Value) : frame.Bears values → (∃ value ∈ values, 64 < value.depth) →
    ∃ text, ofFrame frame = .error (.reply text)
  refused (error : Bus.BusError) : ofFrame frame = .error error → ∃ text, error = .reply text

/-- The depth of what is rendered is bounded, whatever the signature, the byte order and the octets
of a frame. -/
theorem ofFrame_depth_law (frame : Frame) : DepthLaw frame where
  rendered := by
    intro reply decoded
    obtain ⟨values, bears, within, same⟩ := bears_of_ofFrame decoded
    refine ⟨values, bears, within, same, fun value member => ?_⟩
    have depth := Value.depth_le_of_within within value member
    have sorted := Value.layers_normal_le .any value
    rw [Value.layers_any, Value.layers_any] at sorted
    exact ⟨Nat.le_of_lt depth, Nat.le_trans sorted (Nat.le_of_lt depth)⟩
  within := fun values => ofFrame_of_bears
  beyond := fun values => ofFrame_of_beyond
  deeper := by
    rintro values bears ⟨value, member, deep⟩
    refine ofFrame_of_beyond bears fun within => ?_
    have depth := Value.depth_le_of_within within value member
    omega
  refused := fun error => ofFrame_eq_error

end Reply

/-! ### Chains of variants -/

def chainOctets : (count : Nat) → List UInt8
  | 0 => [1, 0x79, 0, 7]
  | count + 1 => [1, 0x76, 0] ++ chainOctets count

/-- Variants in each other around a number. No signature shows how many they are. -/
def variantChain (count : Nat) : Frame :=
  { signature := "v", body := { order := .little, octets := (chainOctets count).toArray } }

def chained : (count : Nat) → Value
  | 0 => .variant (.scalar (.byte 7))
  | count + 1 => .variant (chained count)

theorem layer_variant {inner : Slice → Ty → Reader Value} {slice : Slice} {text : String} {ty : Ty}
    {position next : Nat} {content : Value}
    (holds : slice.body.Holds position (signatureOctets text)) (clean : '\x00' ∉ text.toList)
    (short : Text.Utf8.size text ≤ 255) (known : Ty.ofSignature text = .ok [ty])
    (read : inner ⟨slice.body, position + (signatureOctets text).length⟩ ty
      (position + (signatureOctets text).length) = .ok content next) :
    slice.layer inner .variant position = .ok (.variant content) next := by
  have inside : position + (signatureOctets text).length ≤ slice.stop := holds.stop_le
  rw [Slice.layer, Reader.bind_ok (Slice.signatureText_eq_ok holds clean short), known]
  change (if _ then _ else _ : Reader Value) _ = _
  rw [if_neg (Nat.not_lt.mpr inside)]
  exact Reader.bind_ok read

theorem unlimited_chain (body : Body) (count : Nat) {start position : Nat}
    (holds : body.Holds position (chainOctets count)) :
    Slice.unlimited (count + 2) ⟨body, start⟩ .variant position =
      .ok (chained count) (position + (chainOctets count).length) := by
  -- Each variant is read by a slice of its own, from where its signature ends.
  induction count generalizing start position with
  | zero =>
      have text : body.Holds position (signatureOctets "y" ++ [7]) := holds
      have number : body.Holds (position + 3) (body.order.aligned 1 (position + 3) 7) := by
        rw [Slice.aligned_one]
        exact text.right
      refine @layer_variant _ ⟨body, start⟩ _ _ _ _ _ text.left (by decide) (by decide) rfl ?_
      have read := @Slice.number_eq_ok ⟨body, position + 3⟩ _ _ _ number (by decide)
      rw [Slice.aligned_one] at read
      have byte : Slice.scalar ⟨body, position + 3⟩ .byte (position + 3) =
          .ok (.byte 7) (position + 4) :=
        Reader.bind_ok read
      exact Reader.bind_ok byte
  | succ count ih =>
      have text : body.Holds position (signatureOctets "v" ++ chainOctets count) := holds
      refine @layer_variant _ ⟨body, start⟩ _ _ _ _ _ text.left (by decide) (by decide) rfl ?_
      rw [chainOctets, List.length_append, ← Nat.add_assoc]
      exact ih text.right

theorem variantChain_bears (count : Nat) : (variantChain count).Bears [chained count] := by
  have holds : (variantChain count).body.Holds 0 (chainOctets count) := Body.Holds.whole .little _
  have read := @unlimited_chain (variantChain count).body count 0 0 holds
  have known : (variantChain count).types = .ok [.variant] := by
    have short : ¬255 < Text.Utf8.size "v" + 2 := by decide
    rw [@Frame.types_eq _ [.variant] ⟨trivial, trivial⟩ rfl nofun]
    exact if_neg short
  refine ⟨[.variant], count + 2, known, ?_⟩
  unfold Body.unlimited Reader.each
  rw [Reader.bind_ok read]
  rfl

theorem variantChain_cut :
    Reply.ofFrame (variantChain 62) = .ok { signature := "v", values := ["7"] } ∧
      64 < (chained 64).depth ∧
      ∃ text, Reply.ofFrame (variantChain 64) = .error (.reply text) := by
  have tooDeep : 64 < (chained 64).depth := by decide
  refine ⟨?_, tooDeep, ?_⟩
  · exact (Reply.ofFrame_depth_law _).within _ (variantChain_bears 62) fun counted => by
      cases counted <;> decide
  · exact (Reply.ofFrame_depth_law _).deeper _ (variantChain_bears 64)
      ⟨_, List.mem_singleton_self _, tooDeep⟩

end SessionProbe
