import SessionProbe.Proofs.Wire.Depth
import SessionProbe.Proofs.Wire.Marshal
import SessionProbe.Wire.Reading

set_option autoImplicit false

/-!
Reading undoes writing. `Body.readsBack` says that a value is read back from where its octets
stand, with the position left behind them, just if it fits into what is left of the limits there; the
induction is on the number of containers that may still be entered. `Body.values_eq` says it of whole
bodies.
-/

namespace SessionProbe.Wire

/-- Whether a value can be sent, however deep it is nested. -/
structure Value.IsSound (value : Value) : Prop where
  typed : value.IsTyped
  complete : value.ty.IsComplete
  sendable : value.IsSendable

/-- Whether values can be the body of a message, however deep they are nested. -/
structure Value.AreSound (values : List Value) : Prop where
  typed : Value.FieldsTyped values
  complete : Ty.AllComplete (Value.types values)
  sendable : Value.AllSendable values
  length : (Value.marshalAll .little 0 values).length < 2 ^ 32

/-- Whether every value is read back from a body wherever its octets stand, if it fits there. -/
def Body.ReadsBack (body : Body) (room : Nat) : Prop :=
  ∀ (nesting : Nesting) (start position : Nat) (value : Value), value.IsSound →
    body.Holds position (value.marshal body.order position) →
      Reader.Decides (value.FitsIn room nesting) value
        (position + (value.marshal body.order position).length)
        (Slice.value room nesting ⟨body, start⟩ value.ty position)

def Slice.item (room : Nat) (nesting : Nesting) (slice : Slice) (start length : Nat)
    (element : Ty) : Reader Value := do
  slice.pad element.alignment
  slice.element start length fun part => Slice.value room nesting part element

def Slice.entry (room : Nat) (nesting : Nesting) (slice : Slice) (start length : Nat)
    (keyTy valueTy : Ty) : Reader (Value × Value) := do
  slice.pad 8
  let key ← slice.element start length fun part => Slice.value room nesting part keyTy
  let value ← slice.element start length fun part => Slice.value room nesting part valueTy
  return (key, value)

/-! ### Parts of sound values -/

section Parts

theorem Value.IsSound.of_content {content : Value} (sound : (Value.variant content).IsSound) :
    content.IsSound :=
  ⟨sound.typed, sound.sendable.1, sound.sendable.2.2⟩

theorem Value.IsSound.of_item {element : Ty} {items : List Value}
    (sound : (Value.array element items).IsSound) :
    ∀ item ∈ items, item.ty = element ∧ item.IsSound := by
  intro item member
  obtain ⟨sameTy, typed⟩ := Value.allTyped_iff.mp sound.typed item member
  refine ⟨sameTy, typed, ?_, Value.allSendable_iff.mp sound.sendable item member⟩
  rw [sameTy]
  exact sound.complete

theorem Value.IsSound.of_entry {keyTy valueTy : Ty} {entries : List (Value × Value)}
    (sound : (Value.dictionary keyTy valueTy entries).IsSound) :
    ∀ entry ∈ entries,
      (entry.1.ty = keyTy ∧ entry.1.IsSound) ∧ entry.2.ty = valueTy ∧ entry.2.IsSound := by
  intro entry member
  obtain ⟨⟨kind, basicKey⟩, complete⟩ := sound.complete
  obtain ⟨⟨sameKey, keyTyped⟩, sameValue, valueTyped⟩ :=
    Value.entriesTyped_iff.mp sound.typed entry member
  obtain ⟨keySendable, valueSendable⟩ :=
    Value.entriesSendable_iff.mp sound.sendable entry member
  refine ⟨⟨sameKey, keyTyped, ?_, keySendable⟩, sameValue, valueTyped, ?_, valueSendable⟩
  · rw [sameKey, basicKey]
    trivial
  · rw [sameValue]
    exact complete

theorem Value.isSound_of_mem {values : List Value} (typed : Value.FieldsTyped values)
    (complete : Ty.AllComplete (Value.types values)) (sendable : Value.AllSendable values) :
    ∀ value ∈ values, value.IsSound :=
  fun value member => ⟨Value.fieldsTyped_iff.mp typed value member,
    Value.isComplete_of_mem complete member, Value.allSendable_iff.mp sendable value member⟩

theorem Value.IsSound.of_field {fields : List Value} (sound : (Value.struct fields).IsSound) :
    ∀ field ∈ fields, field.IsSound :=
  Value.isSound_of_mem sound.typed sound.complete.2 sound.sendable

theorem Value.AreSound.size_lt {values : List Value} (sound : Value.AreSound values)
    (order : ByteOrder) : (Value.marshalAll order 0 values).toArray.size < 256 ^ 4 := by
  rw [List.size_toArray, Value.length_marshalAll_eq order .little]
  exact sound.length

theorem Value.AreBody.sound {values : List Value} (fits : Value.AreBody values) :
    Value.AreSound values :=
  ⟨fits.typed, fits.complete, fits.sendable, fits.length⟩

theorem Value.AreBody.isWithinLimits {values : List Value} (fits : Value.AreBody values) :
    (Value.struct values).IsWithinLimits := by
  intro counted
  have depth := fits.depth
  have layers := Value.layersAll_le_depths counted values
  rw [Value.layers]
  cases counted <;> simp only [Container.ofStruct, Container.limit] <;> omega

end Parts

/-! ### Lists of values -/

section Lists

variable {body : Body} {room : Nat} {nesting : Nesting} {start length position first : Nat}

/-- A value is read back as a slice of its own, from where its octets stand or from behind the gap
in front of it. -/
theorem Body.ReadsBack.element (inner : body.ReadsBack room) {value : Value}
    (sound : value.IsSound) (holds : body.Holds position (value.marshal body.order position))
    (keeps : position + (value.marshal body.order position).length ≤ start + length) :
    Reader.Decides (value.FitsIn room nesting) value
      (position + (value.marshal body.order position).length)
      (Slice.element ⟨body, first⟩ start length
        (fun part => Slice.value room nesting part value.ty) position) := by
  have inside := holds.stop_le
  exact Slice.element_decides (by dsimp only; omega)
    (inner nesting position position value sound holds) keeps

theorem Body.ReadsBack.item (inner : body.ReadsBack room) {item : Value} (sound : item.IsSound)
    (holds : body.Holds position (item.marshal body.order position))
    (keeps : position + (item.marshal body.order position).length ≤ start + length) :
    Reader.Decides (item.FitsIn room nesting) item
      (position + (item.marshal body.order position).length)
      (Slice.item room nesting ⟨body, first⟩ start length item.ty position) := by
  rw [Value.marshal_eq_padding, List.length_append, length_padding, ← Nat.add_assoc] at keeps ⊢
  rw [Value.marshal_eq_padding] at holds
  have behind := holds.right
  rw [length_padding] at behind
  unfold Slice.item
  rw [Reader.bind_ok (Slice.pad_eq_ok holds.left)]
  exact inner.element sound behind keeps

theorem Body.ReadsBack.items (inner : body.ReadsBack room) {element : Ty} {items : List Value}
    (sound : ∀ item ∈ items, item.ty = element ∧ item.IsSound)
    (holds : body.Holds position (Value.marshalAll body.order position items)) (fuel : Nat)
    (stops : position + (Value.marshalAll body.order position items).length = start + length)
    (enough : (Value.marshalAll body.order position items).length ≤ fuel) :
    Reader.Decides (∀ item ∈ items, item.FitsIn room nesting) items (start + length)
      (Reader.upTo (start + length)
        (Slice.item room nesting ⟨body, first⟩ start length element) fuel position) := by
  induction items generalizing position fuel with
  | nil =>
      rw [← stops, Value.marshalAll, List.length_nil, Nat.add_zero, Reader.upTo_stop]
      exact .reads (List.forall_mem_nil _)
  | cons item rest ih =>
      obtain ⟨rfl, itemSound⟩ := sound item List.mem_cons_self
      rw [Value.marshalAll] at holds stops enough
      rw [List.length_append] at stops enough
      -- An item takes an octet at least, so that reading up to a position comes to an end.
      have takes := Value.length_marshal_pos body.order position item itemSound.complete
      obtain ⟨fuel, rfl⟩ : ∃ left, fuel = left + 1 := ⟨fuel - 1, by omega⟩
      have here := @Body.ReadsBack.item _ _ nesting start length _ first inner item itemSound
        holds.left (by omega)
      have later := ih (fun other member => sound other (List.mem_cons_of_mem _ member))
        holds.right fuel (by omega) (by omega)
      exact (Reader.upTo_decides (by omega) here later).congr List.forall_mem_cons.symm

theorem Body.ReadsBack.entry (inner : body.ReadsBack room) {key value : Value}
    (keySound : key.IsSound) (valueSound : value.IsSound) {octets keyOctets : List UInt8}
    (startsWithKey : keyOctets =
      padding 8 position ++ key.marshal body.order (position + gap 8 position))
    (thenValue : octets = keyOctets ++ value.marshal body.order (position + keyOctets.length))
    (holds : body.Holds position octets) (keeps : position + octets.length ≤ start + length) :
    Reader.Decides (key.FitsIn room nesting ∧ value.FitsIn room nesting) (key, value)
      (position + octets.length)
      (Slice.entry room nesting ⟨body, first⟩ start length key.ty value.ty position) := by
  subst thenValue
  rw [List.length_append, ← Nat.add_assoc] at keeps ⊢
  have keyPart := holds.left
  have valuePart := holds.right
  have keyEnd : position + keyOctets.length =
      position + gap 8 position + (key.marshal body.order (position + gap 8 position)).length := by
    rw [startsWithKey, List.length_append, length_padding, Nat.add_assoc]
  rw [startsWithKey] at keyPart
  rw [keyEnd] at valuePart keeps ⊢
  have behind := keyPart.right
  rw [length_padding] at behind
  unfold Slice.entry
  rw [Reader.bind_ok (Slice.pad_eq_ok keyPart.left)]
  exact (inner.element keySound behind (by omega)).bind _
    ((inner.element valueSound valuePart keeps).map (Prod.mk key))

theorem Body.ReadsBack.entries (inner : body.ReadsBack room) {keyTy valueTy : Ty}
    {entries : List (Value × Value)}
    (sound : ∀ entry ∈ entries, (entry.1.ty = keyTy ∧ entry.1.IsSound) ∧
      entry.2.ty = valueTy ∧ entry.2.IsSound)
    (holds : body.Holds position (Value.marshalEntries body.order position entries)) (fuel : Nat)
    (stops : position + (Value.marshalEntries body.order position entries).length =
      start + length)
    (enough : (Value.marshalEntries body.order position entries).length ≤ fuel) :
    Reader.Decides (∀ entry ∈ entries, entry.1.FitsIn room nesting ∧ entry.2.FitsIn room nesting)
      entries (start + length)
      (Reader.upTo (start + length)
        (Slice.entry room nesting ⟨body, first⟩ start length keyTy valueTy) fuel position) := by
  induction entries generalizing position fuel with
  | nil =>
      rw [← stops, Value.marshalEntries, List.length_nil, Nat.add_zero, Reader.upTo_stop]
      exact .reads (List.forall_mem_nil _)
  | cons entry rest ih =>
      obtain ⟨key, value⟩ := entry
      obtain ⟨⟨sameKey, keySound⟩, sameValue, valueSound⟩ := sound (key, value) List.mem_cons_self
      dsimp only at sameKey keySound sameValue valueSound
      subst sameKey sameValue
      rw [Value.marshalEntries] at holds stops enough
      rw [List.length_append] at stops enough
      have takes : 0 < (padding 8 position ++
          key.marshal body.order (position + gap 8 position)).length := by
        have keyTakes := Value.length_marshal_pos body.order (position + gap 8 position) key
          keySound.complete
        rw [List.length_append]
        omega
      have entryTakes := Nat.lt_of_lt_of_le takes (List.prefix_append _ (value.marshal body.order
        (position + (padding 8 position ++
          key.marshal body.order (position + gap 8 position)).length))).length_le
      obtain ⟨fuel, rfl⟩ : ∃ left, fuel = left + 1 := ⟨fuel - 1, by omega⟩
      have here := @Body.ReadsBack.entry _ _ nesting start length _ first inner key value keySound
        valueSound _ _ rfl rfl holds.left (by omega)
      have later := ih (fun other member => sound other (List.mem_cons_of_mem _ member))
        holds.right fuel (by omega) (by omega)
      refine (Reader.upTo_decides (by omega) here later).congr ?_
      rw [List.forall_mem_cons]

theorem Body.ReadsBack.fields (inner : body.ReadsBack room) {fields : List Value}
    (sound : ∀ field ∈ fields, field.IsSound)
    (holds : body.Holds position (Value.marshalAll body.order position fields)) :
    Reader.Decides (∀ field ∈ fields, field.FitsIn room nesting) fields
      (position + (Value.marshalAll body.order position fields).length)
      (Reader.each (Slice.value room nesting ⟨body, first⟩) (Value.types fields) position) := by
  induction fields generalizing position with
  | nil => exact .reads (List.forall_mem_nil _)
  | cons field rest ih =>
      rw [Value.marshalAll] at holds ⊢
      rw [List.length_append, ← Nat.add_assoc]
      have here := inner nesting first position field (sound field List.mem_cons_self) holds.left
      have later := ih (fun other member => sound other (List.mem_cons_of_mem _ member))
        holds.right
      exact (Reader.each_decides here later).congr List.forall_mem_cons.symm

end Lists

/-! ### Containers -/

section Containers

variable {body : Body} {room : Nat} {nesting : Nesting} {start position : Nat}

theorem Reader.ofExcept_bind {α β : Type} {outcome : Except Fault α} {value : α}
    {next : α → Reader β} (ok : outcome = .ok value) :
    ((MonadExcept.ofExcept outcome : Reader α) >>= next) position = next value position := by
  rw [ok]
  rfl

/-- What stands before the content of an array or dictionary: a gap, the length of the content and
a gap which that length leaves out. -/
theorem Slice.elements_eq_ok {slice : Slice} {alignment : Nat} {content : Nat → List UInt8}
    (holds : slice.body.Holds position (slice.body.order.elements position alignment content))
    (small : slice.body.octets.size < 256 ^ 4) :
    ∃ lengthEnd first,
      slice.pad 4 position = .ok () (position + gap 4 position) ∧
      slice.number 4 (position + gap 4 position) = .ok (content first).length lengthEnd ∧
      slice.pad alignment lengthEnd = .ok () first ∧
      slice.body.Holds first (content first) ∧
      position + (slice.body.order.elements position alignment content).length =
        first + (content first).length := by
  let lengthEnd := position + gap 4 position + 4
  let first := lengthEnd + gap alignment lengthEnd
  have inside := holds.stop_le
  have split : slice.body.order.elements position alignment content =
      padding 4 position ++
        (slice.body.order.aligned 4 (position + gap 4 position) (content first).length ++
          (padding alignment lengthEnd ++ content first)) := by
    simp [ByteOrder.elements, ByteOrder.aligned, first, lengthEnd]
  have numberEnds : position + gap 4 position +
      (slice.body.order.aligned 4 (position + gap 4 position) (content first).length).length =
        lengthEnd := by
    simp [ByteOrder.aligned, lengthEnd]
  -- From here on the body is cut into gap, number, gap and content, each where the last one ends.
  rw [split] at holds inside ⊢
  have behindGap := holds.right
  rw [length_padding] at behindGap
  have behindNumber := behindGap.right
  rw [numberEnds] at behindNumber
  have behindBoth := behindNumber.right
  rw [length_padding] at behindBoth
  simp only [List.length_append, length_padding] at inside ⊢
  have number := Slice.number_eq_ok behindGap.left (by omega)
  rw [numberEnds] at number
  exact ⟨lengthEnd, first, Slice.pad_eq_ok holds.left, number, Slice.pad_eq_ok behindNumber.left,
    behindBoth, by omega⟩

variable (inner : ∀ less < room, body.ReadsBack less)
include inner

theorem Body.readsBack_variant {content : Value} (sound : (Value.variant content).IsSound)
    (holds : body.Holds position ((Value.variant content).marshal body.order position)) :
    Reader.Decides ((Value.variant content).FitsIn room nesting) (.variant content)
      (position + ((Value.variant content).marshal body.order position).length)
      (Slice.value room nesting ⟨body, start⟩ .variant position) := by
  obtain ⟨complete, short, _⟩ := sound.sendable
  have clean : '\x00' ∉ content.ty.signature.toList := by
    intro zero
    exact (Ty.ascii_signature _ _ zero).1 rfl
  have types : (Ty.ofSignature content.ty.signature).mapError Fault.signature =
      .ok [content.ty] := by
    rw [Ty.ofSignature_signature complete]
    rfl
  have inside := holds.stop_le
  rw [Value.marshal, List.length_append, ← Nat.add_assoc] at inside ⊢
  rw [Value.marshal] at holds
  have within : ¬(Slice.mk body start).stop <
      position + (signatureOctets content.ty.signature).length := by
    unfold Slice.stop
    dsimp only
    omega
  rw [Slice.value, Reader.bind_ok (Slice.signatureText_eq_ok holds.left clean short),
    Reader.ofExcept_bind types, Reader.get_bind]
  dsimp only
  rw [if_neg within]
  cases room with
  | zero =>
      refine .fails (Value.not_fitsIn_zero ?_) _ _
      exact Nat.succ_pos _
  | succ less =>
      have back := inner less (Nat.lt_succ_self less) nesting
        (position + (signatureOctets content.ty.signature).length) _ content sound.of_content
        holds.right
      exact (back.map Value.variant).congr Value.fitsIn_variant_iff.symm

theorem Body.readsBack_array (small : body.octets.size < 256 ^ 4) {element : Ty}
    {items : List Value} (sound : (Value.array element items).IsSound)
    (holds : body.Holds position ((Value.array element items).marshal body.order position)) :
    Reader.Decides ((Value.array element items).FitsIn room nesting) (.array element items)
      (position + ((Value.array element items).marshal body.order position).length)
      (Slice.value room nesting ⟨body, start⟩ (.array element) position) := by
  rw [Value.marshal] at holds ⊢
  obtain ⟨lengthEnd, first, gapRead, numberRead, alignmentRead, content, stops⟩ :=
    @Slice.elements_eq_ok position ⟨body, start⟩ _ _ holds small
  rw [Slice.value, Reader.bind_ok gapRead]
  cases entered : nesting.intoArray with
  | error fault =>
      refine .fails (Value.not_fitsIn_of_intoArray entered ?_) _ _
      exact Nat.succ_pos _
  | ok inside =>
      cases room with
      | zero =>
          refine .fails (Value.not_fitsIn_zero ?_) _ _
          exact Nat.succ_pos _
      | succ less =>
          have back := @Body.ReadsBack.items body less inside first _ first start
            (inner less (Nat.lt_succ_self less)) element items sound.of_item content _ rfl
            (Nat.le_refl _)
          rw [Reader.ofExcept_bind rfl]
          dsimp only
          rw [Reader.bind_ok numberRead, Reader.bind_ok alignmentRead, Reader.get_bind, stops]
          exact (back.map (Value.array element)).congr (Value.fitsIn_array_iff entered).symm

theorem Body.readsBack_dictionary (small : body.octets.size < 256 ^ 4) {keyTy valueTy : Ty}
    {entries : List (Value × Value)} (sound : (Value.dictionary keyTy valueTy entries).IsSound)
    (holds : body.Holds position
      ((Value.dictionary keyTy valueTy entries).marshal body.order position)) :
    Reader.Decides ((Value.dictionary keyTy valueTy entries).FitsIn room nesting)
      (.dictionary keyTy valueTy entries)
      (position + ((Value.dictionary keyTy valueTy entries).marshal body.order position).length)
      (Slice.value room nesting ⟨body, start⟩ (.dictionary keyTy valueTy) position) := by
  rw [Value.marshal] at holds ⊢
  obtain ⟨lengthEnd, first, gapRead, numberRead, alignmentRead, content, stops⟩ :=
    @Slice.elements_eq_ok position ⟨body, start⟩ _ _ holds small
  rw [Slice.value, Reader.bind_ok gapRead]
  cases entered : nesting.intoArray with
  | error fault =>
      refine .fails (Value.not_fitsIn_of_intoArray entered ?_) _ _
      exact Nat.succ_pos _
  | ok inside =>
      cases room with
      | zero =>
          refine .fails (Value.not_fitsIn_zero ?_) _ _
          exact Nat.succ_pos _
      | succ less =>
          have back := @Body.ReadsBack.entries body less inside first _ first start
            (inner less (Nat.lt_succ_self less)) keyTy valueTy entries sound.of_entry content _ rfl
            (Nat.le_refl _)
          rw [Reader.ofExcept_bind rfl]
          dsimp only
          rw [Reader.bind_ok numberRead, Reader.bind_ok alignmentRead, Reader.get_bind, stops]
          exact (back.map (Value.dictionary keyTy valueTy)).congr
            (Value.fitsIn_dictionary_iff entered).symm

theorem Body.readsBack_struct {fields : List Value} (sound : (Value.struct fields).IsSound)
    (holds : body.Holds position ((Value.struct fields).marshal body.order position)) :
    Reader.Decides ((Value.struct fields).FitsIn room nesting) (.struct fields)
      (position + ((Value.struct fields).marshal body.order position).length)
      (Slice.value room nesting ⟨body, start⟩ (.struct (Value.types fields)) position) := by
  rw [Value.marshal] at holds ⊢
  have behind := holds.right
  rw [length_padding] at behind
  rw [Slice.value, Reader.bind_ok (Slice.pad_eq_ok holds.left), List.length_append,
    length_padding, ← Nat.add_assoc]
  cases entered : nesting.intoStruct with
  | error fault =>
      refine .fails (Value.not_fitsIn_of_intoStruct entered ?_) _ _
      exact Nat.succ_pos _
  | ok inside =>
      cases room with
      | zero =>
          refine .fails (Value.not_fitsIn_zero ?_) _ _
          exact Nat.succ_pos _
      | succ less =>
          have back := @Body.ReadsBack.fields _ _ inside _ start (inner less (Nat.lt_succ_self less))
            fields sound.of_field behind
          rw [Reader.ofExcept_bind rfl]
          exact (back.map Value.struct).congr (Value.fitsIn_struct_iff entered).symm

omit inner in
/-- A value is read back wherever its octets stand, whatever else the body holds, if it fits into
what is left of the limits; if it does not fit, the reading fails. -/
theorem Body.readsBack (small : body.octets.size < 256 ^ 4) (room : Nat) :
    body.ReadsBack room := by
  -- The content of a container is read with less room than the container, whatever its type; so
  -- the induction is on the room, and not on the type, which a variant hides.
  induction room using Nat.strongRecOn with
  | ind room inner =>
      intro nesting start position value sound holds
      cases value with
      | scalar value =>
          have back := @Slice.scalar_eq_ok ⟨body, start⟩ position value holds sound.sendable small
          rw [Value.ty, Slice.value, Reader.bind_ok back]
          exact .reads (Value.fitsIn_scalar value)
      | «variant» content => exact Body.readsBack_variant inner sound holds
      | array element items => exact Body.readsBack_array inner small sound holds
      | dictionary key value entries => exact Body.readsBack_dictionary inner small sound holds
      | struct fields => exact Body.readsBack_struct inner sound holds

end Containers

/-! ### Whole bodies -/

section Whole

variable (order : ByteOrder) {values : List Value}

/-- The values of a body are those that were written, whatever the byte order, if they are nested
within all limits, and there are none if not. The body counts as a struct of its values. -/
theorem Body.values_eq (sound : Value.AreSound values) :
    ((Value.struct values).IsWithinLimits →
        Body.values { order, octets := (Value.marshalAll order 0 values).toArray }
          (Value.types values) = .ok values) ∧
      (¬(Value.struct values).IsWithinLimits →
        ∃ fault, Body.values { order, octets := (Value.marshalAll order 0 values).toArray }
          (Value.types values) = .error fault) := by
  have inner : Body.ReadsBack ⟨order, (Value.marshalAll order 0 values).toArray⟩
      (Container.any.limit - 1) :=
    Body.readsBack (sound.size_lt order) _
  have back := @Body.ReadsBack.fields _ _ ⟨1, 0⟩ 0 0 inner values
    (Value.isSound_of_mem sound.typed sound.complete sound.sendable) (Body.Holds.whole order _)
  dsimp only at back
  rw [Value.isWithinLimits_iff]
  unfold Body.values
  dsimp only
  constructor
  · intro within
    rw [back.eq_ok within]
  · intro beyond
    obtain ⟨fault, last, failed⟩ := back.eq_error beyond
    rw [failed]
    exact ⟨fault, rfl⟩

theorem Body.values_marshalAll (fits : Value.AreBody values) :
    Body.values { order, octets := (Value.marshalAll order 0 values).toArray }
      (Value.types values) = .ok values :=
  (Body.values_eq order fits.sound).1 fits.isWithinLimits

end Whole

end SessionProbe.Wire
