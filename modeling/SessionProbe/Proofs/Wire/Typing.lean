import SessionProbe.Proofs.Wire.Reader
import SessionProbe.Proofs.Wire.Spelling
import SessionProbe.Wire.Reading

set_option autoImplicit false

/-!
The types of what is read. Whatever octets a body holds, a value that is read for a type has this
type, and so has every part of it for the type that its container states. `Slice.value_typed` says
this of one value and `Body.values_typed` of the values of a body, one for each type.
-/

namespace SessionProbe.Wire

mutual

/-- Whether every variant in a value has a signature of one type, that of the value in it. -/
def Value.IsSigned : Value → Prop
  | .scalar _ => True
  | .variant content => Ty.ofSignature content.ty.signature = .ok [content.ty] ∧ content.IsSigned
  | .array _ items => Value.AllSigned items
  | .dictionary _ _ entries => Value.EntriesSigned entries
  | .struct fields => Value.AllSigned fields

def Value.AllSigned : List Value → Prop
  | [] => True
  | value :: rest => value.IsSigned ∧ Value.AllSigned rest

def Value.EntriesSigned : List (Value × Value) → Prop
  | [] => True
  | (key, value) :: rest => key.IsSigned ∧ value.IsSigned ∧ Value.EntriesSigned rest

end

structure Value.IsOf (ty : Ty) (value : Value) : Prop where
  same : value.ty = ty
  typed : value.IsTyped
  signed : value.IsSigned

/-! ### Values side by side -/

theorem Value.isOf_array {element : Ty} {items : List Value}
    (each : ∀ item ∈ items, Value.IsOf element item) :
    Value.IsOf (.array element) (.array element items) := by
  have inside : Value.AllTyped element items ∧ Value.AllSigned items := by
    induction items with
    | nil => exact ⟨trivial, trivial⟩
    | cons item rest ih =>
        obtain ⟨here, others⟩ := List.forall_mem_cons.mp each
        obtain ⟨typed, signed⟩ := ih others
        exact ⟨⟨here.same, here.typed, typed⟩, here.signed, signed⟩
  exact ⟨rfl, inside.1, inside.2⟩

theorem Value.isOf_dictionary {keyTy valueTy : Ty} {entries : List (Value × Value)}
    (each : ∀ entry ∈ entries, Value.IsOf keyTy entry.1 ∧ Value.IsOf valueTy entry.2) :
    Value.IsOf (.dictionary keyTy valueTy) (.dictionary keyTy valueTy entries) := by
  have inside : Value.EntriesTyped keyTy valueTy entries ∧ Value.EntriesSigned entries := by
    induction entries with
    | nil => exact ⟨trivial, trivial⟩
    | cons entry rest ih =>
        obtain ⟨⟨key, value⟩, others⟩ := List.forall_mem_cons.mp each
        obtain ⟨typed, signed⟩ := ih others
        exact ⟨⟨key.same, key.typed, value.same, value.typed, typed⟩, key.signed, value.signed,
          signed⟩
  exact ⟨rfl, inside.1, inside.2⟩

theorem Value.isOf_struct {types : List Ty} {fields : List Value}
    (each : List.Forall₂ Value.IsOf types fields) :
    Value.IsOf (.struct types) (.struct fields) := by
  have inside :
      Value.types fields = types ∧ Value.FieldsTyped fields ∧ Value.AllSigned fields := by
    induction each with
    | nil => exact ⟨rfl, trivial, trivial⟩
    | cons here _ ih =>
        obtain ⟨same, typed, signed⟩ := ih
        refine ⟨?_, ⟨here.typed, typed⟩, here.signed, signed⟩
        rw [Value.types, here.same, same]
  exact ⟨congrArg Ty.struct inside.1, inside.2.1, inside.2.2⟩

theorem Value.isOf_variant {content : Value} {ty : Ty} (inner : Value.IsOf ty content)
    (signed : Ty.ofSignature ty.signature = .ok [ty]) :
    Value.IsOf .variant (.variant content) := by
  obtain ⟨rfl, typed, signedInside⟩ := inner
  exact ⟨rfl, typed, signed, signedInside⟩

/-! ### One value -/

namespace Slice

variable {slice : Slice}

theorem scalar_kind (kind : Basic) :
    Reader.Gives (slice.scalar kind) fun value => value.kind = kind := by
  cases kind with
  | boolean =>
      refine Reader.gives_bind fun number => ?_
      split
      · exact Reader.gives_pure rfl
      · exact Reader.gives_pure rfl
      · exact Reader.gives_throw _
  | handle =>
      refine Reader.gives_bind fun _ => ?_
      exact Reader.gives_throw _
  | _ =>
      refine Reader.gives_bind fun _ => ?_
      exact Reader.gives_pure rfl

/-- Every value that is read for a type with some room has that type. -/
def ReadsTyped (room : Nat) : Prop :=
  ∀ (nesting : Nesting) (slice : Slice) (ty : Ty),
    Reader.Gives (Slice.value room nesting slice ty) (Value.IsOf ty)

section Containers

variable {room : Nat} (nesting : Nesting) (inner : ∀ less < room, ReadsTyped less)
include inner

theorem variant_typed :
    Reader.Gives (Slice.value room nesting slice .variant) (Value.IsOf .variant) := by
  rw [Slice.value]
  refine Reader.gives_bind fun text => ?_
  refine (Reader.gives_ofExcept (Ty.ofSignature text) _).bind fun types read => ?_
  refine Reader.gives_bind fun position => ?_
  dsimp only
  by_cases outside : slice.stop < position
  · rw [if_pos outside]
    exact Reader.gives_throw _
  · rw [if_neg outside]
    cases room with
    | zero => exact Reader.gives_throw _
    | succ less =>
        cases types with
        | nil => exact Reader.gives_throw _
        | cons ty others =>
            have signed := Ty.ofSignature_of_mem read List.mem_cons_self
            refine (inner less (Nat.lt_succ_self less) nesting _ ty).bind fun content typed => ?_
            exact Reader.gives_pure (Value.isOf_variant typed signed)

theorem array_typed (element : Ty) :
    Reader.Gives (Slice.value room nesting slice (.array element))
      (Value.IsOf (.array element)) := by
  rw [Slice.value]
  refine Reader.gives_bind fun _ => ?_
  refine Reader.gives_bind fun entered => ?_
  cases room with
  | zero => exact Reader.gives_throw _
  | succ less =>
      have item (part : Slice) := inner less (Nat.lt_succ_self less) entered part element
      refine elements_gives (fun items => Value.isOf_array) ?_
      intro length start
      refine Reader.gives_bind fun _ => ?_
      exact element_gives item

theorem dictionary_typed (keyTy valueTy : Ty) :
    Reader.Gives (Slice.value room nesting slice (.dictionary keyTy valueTy))
      (Value.IsOf (.dictionary keyTy valueTy)) := by
  rw [Slice.value]
  refine Reader.gives_bind fun _ => ?_
  refine Reader.gives_bind fun entered => ?_
  cases room with
  | zero => exact Reader.gives_throw _
  | succ less =>
      have item (ty : Ty) (part : Slice) := inner less (Nat.lt_succ_self less) entered part ty
      refine elements_gives (fun entries => Value.isOf_dictionary) ?_
      intro length start
      refine Reader.gives_bind fun _ => ?_
      refine (element_gives (item keyTy)).bind fun key keyTyped => ?_
      refine (element_gives (item valueTy)).bind fun value valueTyped => ?_
      exact Reader.gives_pure ⟨keyTyped, valueTyped⟩

theorem struct_typed (fields : List Ty) :
    Reader.Gives (Slice.value room nesting slice (.struct fields))
      (Value.IsOf (.struct fields)) := by
  rw [Slice.value]
  refine Reader.gives_bind fun _ => ?_
  refine Reader.gives_bind fun entered => ?_
  cases room with
  | zero => exact Reader.gives_throw _
  | succ less =>
      have field (ty : Ty) := inner less (Nat.lt_succ_self less) entered slice ty
      refine (Reader.gives_each field fields).bind fun values each => ?_
      exact Reader.gives_pure (Value.isOf_struct each)

end Containers

theorem value_typed (room : Nat) : ReadsTyped room := by
  induction room using Nat.strongRecOn with
  | ind room inner =>
      intro nesting slice ty
      cases ty with
      | basic kind =>
          rw [Slice.value]
          refine (scalar_kind kind).bind fun value same => ?_
          apply Reader.gives_pure
          exact ⟨congrArg Ty.basic same, trivial, trivial⟩
      | «variant» => exact variant_typed nesting inner
      | array element => exact array_typed nesting inner element
      | dictionary key value => exact dictionary_typed nesting inner key value
      | entry key value =>
          rw [Slice.value]
          exact Reader.gives_throw _
      | struct fields => exact struct_typed nesting inner fields

end Slice

/-! ### Whole bodies -/

/-- The values of a body have the types that they were read for, one value for each type. -/
theorem Body.values_typed {body : Body} {types : List Ty} {values : List Value}
    (read : body.values types = .ok values) : List.Forall₂ Value.IsOf types values := by
  unfold Body.values at read
  dsimp only at read
  split at read
  · rename_i found last first
    cases read
    have field (nesting : Nesting) (ty : Ty) :=
      Slice.value_typed (Container.any.limit - 1) nesting ⟨body, 0⟩ ty
    exact Reader.gives_each (field _) types _ _ _ first
  · cases read

end SessionProbe.Wire
