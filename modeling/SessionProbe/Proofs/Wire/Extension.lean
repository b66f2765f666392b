import SessionProbe.Proofs.Wire.Reader
import SessionProbe.Wire.Reading

set_option autoImplicit false

/-!
Reading a body that goes on. No reader asks where the body ends in order to succeed: what is read
from a body is read from every longer one, octet by octet the same. `Slice.readsOn` carries this
through the containers, and `Body.values_extend` states it of whole bodies.
-/

namespace SessionProbe.Wire

def Body.extend (body : Body) (more : Array UInt8) : Body :=
  { body with octets := body.octets ++ more }

namespace Slice

def extend (slice : Slice) (more : Array UInt8) : Slice :=
  { slice with body := slice.body.extend more }

variable {slice : Slice} {more : Array UInt8}

/-! ### Octets -/

theorem stop_le_stop_extend (slice : Slice) (more : Array UInt8) :
    slice.stop ≤ (slice.extend more).stop := by
  unfold stop extend Body.extend
  rw [Array.size_append]
  exact Nat.le_add_right _ _

/-- A stretch that keeps to the shorter body holds the same octets in the longer one. -/
theorem extract_extend {next : Nat} (inside : next ≤ slice.stop) (position : Nat) :
    (slice.extend more).body.octets.extract position next =
      slice.body.octets.extract position next := by
  have behind : next - slice.body.octets.size = 0 := Nat.sub_eq_zero_of_le inside
  unfold extend Body.extend
  rw [Array.extract_append, behind, Array.extract_empty_of_stop_le_start (Nat.zero_le _),
    Array.append_empty]

theorem take_within (count : Nat) :
    Reader.Within (slice.take count) ((slice.extend more).take count) := by
  intro position octets next taken
  unfold take at taken ⊢
  dsimp only at taken ⊢
  by_cases short : slice.stop < position + count
  · rw [if_pos short] at taken
    cases taken
  · rw [if_neg short] at taken
    have longer := stop_le_stop_extend slice more
    rw [if_neg (by omega), extract_extend (by omega)]
    exact taken

theorem pad_within (alignment : Nat) :
    Reader.Within (slice.pad alignment) ((slice.extend more).pad alignment) := by
  intro position value next padded
  have longer := stop_le_stop_extend slice more
  unfold pad at padded ⊢
  dsimp only at padded ⊢
  by_cases short : position < position + gap alignment position ∧
      slice.stop < position + gap alignment position
  · rw [if_pos short] at padded
    cases padded
  · rw [if_neg short] at padded
    rw [if_neg (by omega)]
    by_cases aligned : gap alignment position = 0
    -- There may be nothing left of the shorter body here, and nothing is looked at.
    · have empty (octets : Array UInt8) : octets.extract position (position + 0) = #[] :=
        Array.extract_empty_of_stop_le_start (Nat.le_refl _)
      rw [aligned, empty] at padded ⊢
      exact padded
    · rw [extract_extend (by omega)]
      exact padded

/-! ### Scalars -/

theorem number_within (width : Nat) :
    Reader.Within (slice.number width) ((slice.extend more).number width) := by
  apply (pad_within width).bind
  intro _
  exact (take_within width).bind_left _

theorem content_within (length : Nat) :
    Reader.Within (slice.content length) ((slice.extend more).content length) :=
  (take_within length).bind_left _

theorem text_within : Reader.Within slice.text (slice.extend more).text := by
  apply (number_within 4).bind
  exact content_within

theorem signatureText_within :
    Reader.Within slice.signatureText (slice.extend more).signatureText := by
  apply (number_within 1).bind
  exact content_within

theorem scalar_within (kind : Basic) :
    Reader.Within (slice.scalar kind) ((slice.extend more).scalar kind) := by
  cases kind with
  | string | objectPath => exact text_within.bind_left _
  | signature => exact signatureText_within.bind_left _
  | _ => exact (number_within _).bind_left _

/-! ### Containers -/

theorem element_within {α : Type} {read : Slice → Reader α} (start length : Nat)
    (inner : ∀ part : Slice, Reader.Within (read part) (read (part.extend more))) :
    Reader.Within (slice.element start length read)
      ((slice.extend more).element start length read) := by
  intro position value next found
  have longer := stop_le_stop_extend slice more
  unfold element at found ⊢
  by_cases outside : slice.stop < position
  · rw [if_pos outside] at found
    cases found
  · rw [if_neg outside] at found
    rw [if_neg (by omega)]
    cases first : read ⟨slice.body, position⟩ position with
    | ok part middle =>
        rw [first] at found
        have again := inner ⟨slice.body, position⟩ _ _ _ first
        change read ⟨(slice.extend more).body, position⟩ position = _ at again
        rw [again]
        exact found
    | error fault middle =>
        rw [first] at found
        dsimp only at found
        split at found <;> cases found

/-- What stands behind the gap in front of an array or dictionary: its length, the gap in front of
the first item, and the items. -/
theorem elements_within {α : Type} {alignment : Nat} {item longer : (length start : Nat) → Reader α}
    (each : ∀ length start, Reader.Within (item length start) (longer length start))
    (whole : List α → Value) :
    Reader.Within
      (do
        let length ← slice.number 4
        slice.pad alignment
        let start ← get
        return whole (← Reader.upTo (start + length) (item length start) length))
      (do
        let length ← (slice.extend more).number 4
        (slice.extend more).pad alignment
        let start ← get
        return whole (← Reader.upTo (start + length) (longer length start) length)) := by
  apply (number_within 4).bind
  intro length
  apply (pad_within alignment).bind
  intro _
  apply (Reader.Within.refl _).bind
  intro start
  exact ((each length start).upTo _ _).bind_left _

/-- What is read of a type from a slice with some room is read from every longer slice. -/
def ReadsOn (more : Array UInt8) (room : Nat) : Prop :=
  ∀ (nesting : Nesting) (slice : Slice) (ty : Ty),
    Reader.Within (Slice.value room nesting slice ty)
      (Slice.value room nesting (slice.extend more) ty)

section Containers

variable {room : Nat} (nesting : Nesting) (inner : ∀ less < room, ReadsOn more less)
include inner

theorem variant_within :
    Reader.Within (Slice.value room nesting slice .variant)
      (Slice.value room nesting (slice.extend more) .variant) := by
  rw [Slice.value, Slice.value]
  apply signatureText_within.bind
  intro text
  apply (Reader.Within.refl _).bind
  intro types
  apply (Reader.Within.refl _).bind
  intro position
  have longer := stop_le_stop_extend slice more
  dsimp only
  by_cases outside : slice.stop < position
  · rw [if_pos outside]
    exact Reader.throw_within _ _
  · rw [if_neg outside, if_neg (by omega)]
    cases room with
    | zero => exact Reader.throw_within _ _
    | succ less =>
        cases types with
        | nil => exact Reader.throw_within _ _
        | cons ty others =>
            have content := inner less (Nat.lt_succ_self less) nesting ⟨slice.body, position⟩ ty
            exact content.bind_left _

theorem array_within (element : Ty) :
    Reader.Within (Slice.value room nesting slice (.array element))
      (Slice.value room nesting (slice.extend more) (.array element)) := by
  rw [Slice.value, Slice.value]
  apply (pad_within 4).bind
  intro _
  apply (Reader.Within.refl _).bind
  intro entered
  cases room with
  | zero => exact Reader.throw_within _ _
  | succ less =>
      have item (part : Slice) := inner less (Nat.lt_succ_self less) entered part element
      apply elements_within
      intro length start
      apply (pad_within _).bind
      intro _
      exact element_within start length item

theorem dictionary_within (key value : Ty) :
    Reader.Within (Slice.value room nesting slice (.dictionary key value))
      (Slice.value room nesting (slice.extend more) (.dictionary key value)) := by
  rw [Slice.value, Slice.value]
  apply (pad_within 4).bind
  intro _
  apply (Reader.Within.refl _).bind
  intro entered
  cases room with
  | zero => exact Reader.throw_within _ _
  | succ less =>
      have item (ty : Ty) (part : Slice) := inner less (Nat.lt_succ_self less) entered part ty
      apply elements_within
      intro length start
      apply (pad_within _).bind
      intro _
      apply (element_within start length (item key)).bind
      intro _
      exact (element_within start length (item value)).bind_left _

theorem struct_within (fields : List Ty) :
    Reader.Within (Slice.value room nesting slice (.struct fields))
      (Slice.value room nesting (slice.extend more) (.struct fields)) := by
  rw [Slice.value, Slice.value]
  apply (pad_within 8).bind
  intro _
  apply (Reader.Within.refl _).bind
  intro entered
  cases room with
  | zero => exact Reader.throw_within _ _
  | succ less =>
      have field (ty : Ty) := inner less (Nat.lt_succ_self less) entered slice ty
      exact (Reader.within_each field fields).bind_left _

end Containers

theorem readsOn (more : Array UInt8) (room : Nat) : ReadsOn more room := by
  -- A variant hides the type of its content, so the induction is on the room that is left for it.
  induction room using Nat.strongRecOn with
  | ind room inner =>
      intro nesting slice ty
      cases ty with
      | basic kind =>
          rw [Slice.value, Slice.value]
          exact (scalar_within kind).bind_left _
      | «variant» => exact variant_within nesting inner
      | array element => exact array_within nesting inner element
      | dictionary key value => exact dictionary_within nesting inner key value
      | entry key value =>
          rw [Slice.value]
          exact Reader.throw_within _ _
      | struct fields => exact struct_within nesting inner fields

end Slice

/-! ### Whole bodies -/

theorem Body.values_extend {body : Body} {types : List Ty} {values : List Value}
    (read : body.values types = .ok values) (more : Array UInt8) :
    (body.extend more).values types = .ok values := by
  unfold Body.values at read ⊢
  dsimp only at read ⊢
  have fields (nesting : Nesting) := Reader.within_each (fun ty =>
    Slice.readsOn more (Container.any.limit - 1) nesting ⟨body, 0⟩ ty) types
  split at read
  · rename_i found last first
    cases read
    have again := fields _ _ _ _ first
    change Reader.each (Slice.value _ _ ⟨body.extend more, 0⟩) types 0 = _ at again
    rw [again]
  · cases read

end SessionProbe.Wire
