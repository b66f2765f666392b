import SessionProbe.Proofs.Text.Utf8
import SessionProbe.Proofs.Wire.Numbers
import SessionProbe.Wire.Slice

set_option autoImplicit false

/-!
The parts of a body read back. Where the octets of a part stand in a body (`Body.Holds`), reading
the part gives what was written and stops behind it. Repeated readings have lemmas of their own:
`Reader.Decides` says of a reading what it comes to and when.
-/

namespace SessionProbe.Wire

/-! ### Where octets stand -/

def Body.Holds (body : Body) (position : Nat) (octets : List UInt8) : Prop :=
  ∃ front back, body.octets.toList = front ++ octets ++ back ∧ front.length = position

namespace Body.Holds

variable {body : Body} {position : Nat} {first second octets : List UInt8}

theorem left (holds : body.Holds position (first ++ second)) : body.Holds position first := by
  obtain ⟨front, back, whole, place⟩ := holds
  exact ⟨front, second ++ back, by rw [whole]; simp only [List.append_assoc], place⟩

theorem right (holds : body.Holds position (first ++ second)) :
    body.Holds (position + first.length) second := by
  obtain ⟨front, back, whole, place⟩ := holds
  refine ⟨front ++ first, back, by rw [whole]; simp only [List.append_assoc], ?_⟩
  rw [List.length_append, place]

theorem stop_le (holds : body.Holds position octets) :
    position + octets.length ≤ body.octets.size := by
  obtain ⟨front, back, whole, place⟩ := holds
  rw [← Array.length_toList, whole, List.length_append, List.length_append, place]
  exact Nat.le_add_right _ _

theorem extract (holds : body.Holds position octets) :
    (body.octets.extract position (position + octets.length)).toList = octets := by
  obtain ⟨front, back, whole, place⟩ := holds
  rw [Array.toList_extract, whole, List.extract_eq_take_drop, Nat.add_sub_cancel_left,
    List.append_assoc, ← place, List.drop_left, List.take_left]

theorem whole (order : ByteOrder) (octets : List UInt8) :
    Body.Holds { order, octets := octets.toArray } 0 octets :=
  ⟨[], [], by simp, rfl⟩

end Body.Holds

/-! ### Runs of readers -/

theorem Reader.bind_ok {α β : Type} {read : Reader α} {next : α → Reader β} {value : α}
    {position later : Nat} (first : read position = .ok value later) :
    (read >>= next) position = next value later := by
  change EStateM.bind read next position = _
  unfold EStateM.bind
  rw [first]

theorem Reader.get_bind {β : Type} {next : Nat → Reader β} {position : Nat} :
    ((get : Reader Nat) >>= next) position = next position position := rfl

/-- A reading that comes to a value and stops behind it if a condition holds, and fails if not. -/
inductive Reader.Decides {α : Type} (fits : Prop) (value : α) (next : Nat) :
    EStateM.Result Fault Nat α → Prop
  | reads (holds : fits) : Reader.Decides fits value next (.ok value next)
  | fails (misses : ¬fits) (fault : Fault) (last : Nat) :
      Reader.Decides fits value next (.error fault last)

section Decides

variable {α β : Type} {fits more : Prop} {read : Reader α} {value : α} {values : List α}
  {position next last stop : Nat} {outcome : EStateM.Result Fault Nat α}

theorem Reader.Decides.eq_ok (decides : Reader.Decides fits value next outcome) (holds : fits) :
    outcome = .ok value next := by
  cases decides with
  | reads => rfl
  | fails misses => exact absurd holds misses

theorem Reader.Decides.eq_error (decides : Reader.Decides fits value next outcome)
    (misses : ¬fits) : ∃ fault last, outcome = .error fault last := by
  cases decides with
  | reads holds => exact absurd holds misses
  | fails _ fault last => exact ⟨fault, last, rfl⟩

theorem Reader.Decides.congr (decides : Reader.Decides fits value next outcome)
    (same : fits ↔ more) : Reader.Decides more value next outcome := by
  cases decides with
  | reads holds => exact .reads (same.mp holds)
  | fails misses fault last => exact .fails (fun holds => misses (same.mpr holds)) fault last

/-- Two readings, one after the other, come to an end if both do. -/
theorem Reader.Decides.bind (behind : α → Reader β) {result : β}
    (first : Reader.Decides fits value next (read position))
    (rest : Reader.Decides more result last (behind value next)) :
    Reader.Decides (fits ∧ more) result last ((read >>= behind) position) := by
  change Reader.Decides _ _ _ (EStateM.bind read behind position)
  unfold EStateM.bind
  generalize read position = outcome at first
  cases first with
  | reads holds => exact rest.congr (and_iff_right holds).symm
  | fails misses fault stop => exact .fails (fun both => misses both.1) fault stop

theorem Reader.Decides.map (first : Reader.Decides fits value next (read position)) (f : α → β) :
    Reader.Decides fits (f value) next ((read >>= fun value => pure (f value)) position) := by
  have last : Reader.Decides True (f value) next ((pure (f value) : Reader β) next) :=
    .reads trivial
  exact (first.bind (fun value => pure (f value)) last).congr (and_iff_left trivial)

theorem Reader.upTo_stop (fuel : Nat) : Reader.upTo stop read fuel stop = .ok [] stop := by
  cases fuel with
  | zero =>
      rw [Reader.upTo, Reader.get_bind, if_pos rfl]
      rfl
  | succ fuel =>
      rw [Reader.upTo, Reader.get_bind, if_pos rfl]
      rfl

theorem Reader.upTo_decides {fuel : Nat} (before : position < stop)
    (first : Reader.Decides fits value next (read position))
    (rest : Reader.Decides more values stop (Reader.upTo stop read fuel next)) :
    Reader.Decides (fits ∧ more) (value :: values) stop
      (Reader.upTo stop read (fuel + 1) position) := by
  rw [Reader.upTo, Reader.get_bind, if_neg (by omega)]
  exact first.bind _ (rest.map (value :: ·))

theorem Reader.each_decides {reads : β → Reader α} {item : β} {items : List β}
    (first : Reader.Decides fits value next (reads item position))
    (rest : Reader.Decides more values last (Reader.each reads items next)) :
    Reader.Decides (fits ∧ more) (value :: values) last
      (Reader.each reads (item :: items) position) := by
  rw [Reader.each]
  exact first.bind _ (rest.map (value :: ·))

end Decides

/-! ### Numbers and texts -/

/-- Whether a scalar can be sent: texts have no zero inside, and a signature has a length that one
octet tells. -/
def Scalar.IsSendable : Scalar → Prop
  | .string value | .objectPath value => '\x00' ∉ value.toList
  | .signature value => '\x00' ∉ value.toList ∧ Text.Utf8.size value ≤ 255
  | _ => True

namespace Slice

variable {slice : Slice} {position alignment width n : Nat} {octets : List UInt8} {text : String}

theorem pad_eq_ok (holds : slice.body.Holds position (padding alignment position)) :
    slice.pad alignment position = .ok () (position + gap alignment position) := by
  have inside : position + (padding alignment position).length ≤ slice.stop := holds.stop_le
  have zeros := holds.extract
  rw [length_padding] at inside zeros
  have none_other : (padding alignment position).find? (· ≠ 0) = none := by
    rw [List.find?_eq_none]
    intro octet member
    rw [List.eq_of_mem_replicate member]
    decide
  unfold Slice.pad
  dsimp only
  rw [if_neg (by omega), zeros, none_other]

theorem take_eq_ok (holds : slice.body.Holds position octets) :
    slice.take octets.length position = .ok octets (position + octets.length) := by
  have inside : position + octets.length ≤ slice.stop := holds.stop_le
  unfold Slice.take
  dsimp only
  rw [if_neg (by omega), holds.extract]

theorem number_eq_ok (holds : slice.body.Holds position (slice.body.order.aligned width position n))
    (fits : n < 256 ^ width) :
    slice.number width position =
      .ok n (position + (slice.body.order.aligned width position n).length) := by
  have behind := holds.right
  rw [length_padding] at behind
  have taken := take_eq_ok behind
  rw [ByteOrder.length_octets] at taken
  unfold Slice.number
  rw [Reader.bind_ok (pad_eq_ok holds.left), Reader.bind_ok taken,
    slice.body.order.number_octets fits, ByteOrder.aligned, List.length_append, length_padding,
    ByteOrder.length_octets, Nat.add_assoc]
  rfl

theorem content_eq_ok (holds : slice.body.Holds position (Text.Utf8.encode text ++ [0]))
    (clean : '\x00' ∉ text.toList) :
    slice.content (Text.Utf8.size text) position =
      .ok text (position + (Text.Utf8.encode text ++ [0]).length) := by
  unfold Slice.content Text.Utf8.size
  rw [Reader.bind_ok (take_eq_ok holds.left), if_neg (Text.Utf8.zero_not_mem_encode clean),
    Text.Utf8.decode_encode, List.length_append]
  rfl

theorem text_eq_ok (holds : slice.body.Holds position (slice.body.order.text position text))
    (clean : '\x00' ∉ text.toList) (small : slice.body.octets.size < 256 ^ 4) :
    slice.text position =
      .ok text (position + (slice.body.order.text position text).length) := by
  have inside := holds.stop_le
  unfold ByteOrder.text at holds inside ⊢
  rw [List.append_assoc] at holds inside ⊢
  have fits : Text.Utf8.size text < 256 ^ 4 := by
    simp only [List.length_append] at inside
    unfold Text.Utf8.size
    omega
  unfold Slice.text
  rw [Reader.bind_ok (number_eq_ok holds.left fits), content_eq_ok holds.right clean,
    Nat.add_assoc, ← List.length_append]

theorem aligned_one (order : ByteOrder) (position n : Nat) :
    order.aligned 1 position n = [n.toUInt8] := by
  unfold ByteOrder.aligned padding
  rw [gap_one]
  cases order <;> rfl

theorem signatureText_eq_ok (holds : slice.body.Holds position (signatureOctets text))
    (clean : '\x00' ∉ text.toList) (short : Text.Utf8.size text ≤ 255) :
    slice.signatureText position = .ok text (position + (signatureOctets text).length) := by
  have split : signatureOctets text =
      slice.body.order.aligned 1 position (Text.Utf8.size text) ++
        (Text.Utf8.encode text ++ [0]) := by
    rw [aligned_one]
    rfl
  rw [split] at holds ⊢
  unfold Slice.signatureText
  rw [Reader.bind_ok (number_eq_ok holds.left (by omega)), content_eq_ok holds.right clean,
    Nat.add_assoc, ← List.length_append]

/-! ### Scalars and slices -/

theorem scalar_eq_ok {value : Scalar}
    (holds : slice.body.Holds position (value.marshal slice.body.order position))
    (sendable : value.IsSendable) (small : slice.body.octets.size < 256 ^ 4) :
    slice.scalar value.kind position =
      .ok value (position + (value.marshal slice.body.order position).length) := by
  cases value with
  | byte value =>
      have octet : Scalar.marshal slice.body.order position (.byte value) =
          slice.body.order.aligned 1 position value.toNat := by
        rw [aligned_one, Scalar.marshal]
        simp
      rw [octet] at holds ⊢
      simp only [Scalar.kind, Slice.scalar]
      rw [Reader.bind_ok (number_eq_ok holds value.toNat_lt), UInt8.ofNat_toNat]
      rfl
  | boolean value =>
      simp only [Scalar.kind, Slice.scalar]
      cases value with
      | false =>
          rw [Reader.bind_ok (number_eq_ok holds (by decide))]
          rfl
      | true =>
          rw [Reader.bind_ok (number_eq_ok holds (by decide))]
          rfl
  | int16 value =>
      simp only [Scalar.kind, Slice.scalar]
      rw [Reader.bind_ok (number_eq_ok holds value.toUInt16.toNat_lt), UInt16.ofNat_toNat,
        Int16.toInt16_toUInt16]
      rfl
  | uint16 value =>
      simp only [Scalar.kind, Slice.scalar]
      rw [Reader.bind_ok (number_eq_ok holds value.toNat_lt), UInt16.ofNat_toNat]
      rfl
  | int32 value =>
      simp only [Scalar.kind, Slice.scalar]
      rw [Reader.bind_ok (number_eq_ok holds value.toUInt32.toNat_lt), UInt32.ofNat_toNat,
        Int32.toInt32_toUInt32]
      rfl
  | uint32 value =>
      simp only [Scalar.kind, Slice.scalar]
      rw [Reader.bind_ok (number_eq_ok holds value.toNat_lt), UInt32.ofNat_toNat]
      rfl
  | int64 value =>
      simp only [Scalar.kind, Slice.scalar]
      rw [Reader.bind_ok (number_eq_ok holds value.toUInt64.toNat_lt), UInt64.ofNat_toNat,
        Int64.toInt64_toUInt64]
      rfl
  | uint64 value =>
      simp only [Scalar.kind, Slice.scalar]
      rw [Reader.bind_ok (number_eq_ok holds value.toNat_lt), UInt64.ofNat_toNat]
      rfl
  | double value =>
      simp only [Scalar.kind, Slice.scalar]
      rw [Reader.bind_ok (number_eq_ok holds value.bits.toNat_lt), UInt64.ofNat_toNat]
      rfl
  | string value =>
      simp only [Scalar.kind, Slice.scalar]
      rw [Reader.bind_ok (text_eq_ok holds sendable small)]
      rfl
  | objectPath value =>
      simp only [Scalar.kind, Slice.scalar]
      rw [Reader.bind_ok (text_eq_ok holds sendable small)]
      rfl
  | signature value =>
      simp only [Scalar.kind, Slice.scalar]
      rw [Reader.bind_ok (signatureText_eq_ok holds sendable.1 sendable.2)]
      rfl

/-- A reading in a slice of its own that keeps to the slice's length. -/
theorem element_decides {α : Type} {read : Slice → Reader α} {fits : Prop} {value : α}
    {start length next : Nat} (inside : position ≤ slice.body.octets.size)
    (first : Reader.Decides fits value next (read ⟨slice.body, position⟩ position))
    (keeps : next ≤ start + length) :
    Reader.Decides fits value next (slice.element start length read position) := by
  have within : position ≤ slice.stop := inside
  unfold Slice.element
  rw [if_neg (by omega)]
  generalize read ⟨slice.body, position⟩ position = outcome at first
  cases first with
  | reads holds =>
      dsimp only
      rw [if_neg (by omega)]
      exact .reads holds
  | fails misses fault last =>
      dsimp only
      split
      · exact .fails misses _ _
      · exact .fails misses _ _

end Slice

end SessionProbe.Wire
