import SessionProbe.Proofs.Wire.Typing
import SessionProbe.Reply

set_option autoImplicit false

/-!
The types behind a reply. A reply that was read from any octets has the signature of its body and a
text for each of the types in it, in order, and each text stands for a value of its type. Whatever
else the octets are, they cannot be decoded.
-/

namespace SessionProbe

open Wire

/-- Without a parenthesis in front of the signature, the values have the types of the signature. -/
theorem Frame.types_eq_ok {frame : Frame} {types : List Ty}
    (plain : frame.signature.toList.head? ≠ some '(') (read : frame.types = .ok types) :
    Ty.ofSignature frame.signature = .ok types := by
  unfold Frame.types at read
  split at read
  · cases read
  · rename_i fields lone
    have spelled := Ty.signatures_of_ofSignature lone
    rw [← spelled, Ty.toList_signatures_cons, Ty.toList_struct] at plain
    exact absurd rfl plain
  · rename_i whole _ known
    dsimp only at read
    split at read
    · cases read
    · cases read
      exact known

theorem Frame.values_typed {frame : Frame} {values : List Value}
    (plain : frame.signature.toList.head? ≠ some '(') (read : frame.values = .ok values) :
    ∃ types, Ty.ofSignature frame.signature = .ok types ∧
      List.Forall₂ Value.IsOf types values := by
  unfold Frame.values at read
  cases first : frame.types with
  | error fault =>
      rw [first] at read
      cases read
  | ok types =>
      rw [first] at read
      exact ⟨types, Frame.types_eq_ok plain first, Body.values_typed read⟩

/-- What a reply tells of the body that it was read from. -/
structure Reply.TypedBy (types : List Ty) (reply : Reply) : Prop where
  spelled : Ty.signatures types = reply.signature
  known : Ty.ofSignature reply.signature = .ok types
  rendered : List.Forall₂ (fun ty text => ∃ value, Value.IsOf ty value ∧ value.render = text)
    types reply.values

namespace Reply

variable {types : List Ty} {reply : Reply}

theorem TypedBy.of_values {signature : String} {values : List Value}
    (known : Ty.ofSignature signature = .ok types)
    (typed : List.Forall₂ Value.IsOf types values) :
    TypedBy types { signature := signature, values := values.map Value.render } where
  spelled := Ty.signatures_of_ofSignature known
  known := known
  rendered := by
    apply List.forall₂_map_right_iff.mpr
    apply typed.imp
    intro ty value here
    exact ⟨value, here, rfl⟩

theorem TypedBy.isEmpty_iff (typed : TypedBy types reply) :
    reply.isEmpty = true ↔ reply.signature = "" := by
  obtain ⟨spelled, known, rendered⟩ := typed
  rw [isEmpty, List.isEmpty_iff]
  constructor
  · intro none
    rw [none] at rendered
    cases rendered
    exact spelled.symm
  · intro empty
    rw [empty] at known
    cases known
    exact List.forall₂_nil_left_iff.mp rendered

/-- Decoding is sound for all octets, well-formed or not. If the signature does not begin with a
struct, a reply has this signature, as many texts as there are types in it, and each text is that of
a value of its type; only a reply without a signature is empty. Where there is no reply, the body
cannot be decoded. -/
theorem ofFrame_sound (frame : Frame) (plain : frame.signature.toList.head? ≠ some '(') :
    (∀ reply, ofFrame frame = .ok reply →
        reply.signature = frame.signature ∧
          (∃ types, TypedBy types reply ∧ reply.values.length = types.length) ∧
          (reply.isEmpty = true ↔ frame.signature = "")) ∧
      ∀ error, ofFrame frame = .error error → ∃ text, error = .reply text := by
  refine ⟨?_, fun error => ofFrame_eq_error⟩
  intro reply decoded
  have told : reply.signature = frame.signature ∧ ∃ types, TypedBy types reply := by
    rcases ofFrame_eq_ok decoded with ⟨empty, rfl⟩ | ⟨some, values, read, rfl⟩
    · exact ⟨(String.isEmpty_iff.mp empty).symm, [], rfl, rfl, List.Forall₂.nil⟩
    · obtain ⟨types, known, typed⟩ := Frame.values_typed plain read
      exact ⟨rfl, types, TypedBy.of_values known typed⟩
  obtain ⟨same, types, typed⟩ := told
  refine ⟨same, ⟨types, typed, typed.rendered.length_eq.symm⟩, ?_⟩
  rw [typed.isEmpty_iff, same]

end Reply

/-- A number in a variant and an array of no structs, whose gap is there all the same. -/
def numberAndNothing : Frame :=
  { signature := "va(si)",
    body := { order := .little, octets := #[1, 0x75, 0, 0, 3, 0, 0, 0, 0, 0, 0, 0, 0, 0, 0, 0] } }

theorem numberAndNothing_sound :
    numberAndNothing.signature.toList.head? ≠ some '(' ∧
      Reply.ofFrame numberAndNothing =
        .ok { signature := "va(si)", values := ["3", "@a(si) []"] } ∧
      ∃ types, Reply.TypedBy types { signature := "va(si)", values := ["3", "@a(si) []"] } ∧
        2 = types.length := by
  have plain : numberAndNothing.signature.toList.head? ≠ some '(' := by decide
  have decoded : Reply.ofFrame numberAndNothing =
      .ok { signature := "va(si)", values := ["3", "@a(si) []"] } := by
    decide +kernel
  obtain ⟨_, typed, _⟩ := (Reply.ofFrame_sound numberAndNothing plain).1 _ decoded
  exact ⟨plain, decoded, typed⟩

end SessionProbe
