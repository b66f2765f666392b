import SessionProbe.Proofs.Wire.Form

set_option autoImplicit false

/-!
What the first characters of a text form tell. The annotated text of a value tells its shape: the
kind of a scalar, or the sort of a container and whether it is empty. Two texts of one type without
annotations tell their shapes apart as well.
-/

namespace SessionProbe.Wire

open Text (Delimited Told following)

/-- The types whose values are told by their texts. Many doubles share the text of what is not a
number, and an array of bytes may be written as a text, whatever its octets. -/
def Ty.IsPlain (ty : Ty) : Prop :=
  ty ≠ .basic .double ∧ ty ≠ .array (.basic .byte)

/-- A value of a type in which there is neither a double nor an array of bytes. -/
structure Value.IsPlain (ty : Ty) (value : Value) : Prop where
  typed : value.IsOf ty
  plain : value.Every fun part => part.ty.IsPlain

section Parts

variable {ty keyTy valueTy element : Ty}

theorem Value.IsPlain.kind_ne_double {value : Scalar} (plain : (Value.scalar value).IsPlain ty) :
    value.kind ≠ .double :=
  fun double => plain.plain.1 (congrArg Ty.basic double)

theorem Value.IsPlain.of_content {content : Value} (plain : (Value.variant content).IsPlain ty) :
    content.IsPlain content.ty :=
  ⟨plain.typed.of_content, plain.plain.2⟩

theorem Value.IsPlain.of_item {items : List Value}
    (plain : (Value.array element items).IsPlain ty) : ∀ item ∈ items, item.IsPlain element :=
  fun item member =>
    ⟨plain.typed.of_item item member, Value.allEvery_iff.mp plain.plain.2 item member⟩

theorem Value.IsPlain.of_entry {entries : List (Value × Value)}
    (plain : (Value.dictionary keyTy valueTy entries).IsPlain ty) :
    ∀ entry ∈ entries, entry.1.IsPlain keyTy ∧ entry.2.IsPlain valueTy := by
  intro entry member
  obtain ⟨key, value⟩ := plain.typed.of_entry entry member
  obtain ⟨plainKey, plainValue⟩ := Value.entriesEvery_iff.mp plain.plain.2 entry member
  exact ⟨⟨key, plainKey⟩, value, plainValue⟩

theorem Value.IsPlain.of_field {fields : List Value} (plain : (Value.struct fields).IsPlain ty) :
    ∀ field ∈ fields, field.IsPlain field.ty :=
  fun field member =>
    ⟨plain.typed.of_field field member, Value.allEvery_iff.mp plain.plain.2 field member⟩

theorem Value.IsPlain.item_ne_byte {item : Value} {items rest : List Value}
    (plain : (Value.array element items).IsPlain ty) (shape : items = item :: rest) :
    item.ty ≠ .basic .byte := by
  have member : item ∈ items := by
    rw [shape]
    exact List.mem_cons_self
  rw [(plain.of_item item member).typed.same]
  exact fun bytes => plain.plain.1.2 (congrArg Ty.array bytes)

end Parts

inductive Shape
  | scalar (kind : Basic)
  | «variant»
  | empty
  | array
  | dictionary
  | struct
deriving DecidableEq

def Value.shape : Value → Shape
  | .scalar value => .scalar value.kind
  | .variant _ => .variant
  | .array _ items => if items.isEmpty then .empty else .array
  | .dictionary _ _ entries => if entries.isEmpty then .empty else .dictionary
  | .struct _ => .struct

inductive Value.HasShape : Shape → Value → Prop
  | scalar {kind : Basic} (value : Scalar) (same : value.kind = kind) :
      HasShape (.scalar kind) (.scalar value)
  | «variant» (content : Value) : HasShape .variant (.variant content)
  | emptyArray (element : Ty) : HasShape .empty (.array element [])
  | emptyDictionary (keyTy valueTy : Ty) : HasShape .empty (.dictionary keyTy valueTy [])
  | array (element : Ty) (item : Value) (others : List Value) :
      HasShape .array (.array element (item :: others))
  | dictionary (keyTy valueTy : Ty) (entry : Value × Value) (others : List (Value × Value)) :
      HasShape .dictionary (.dictionary keyTy valueTy (entry :: others))
  | struct (fields : List Value) : HasShape .struct (.struct fields)

theorem Value.hasShape (value : Value) : value.HasShape value.shape := by
  cases value with
  | scalar value => exact .scalar value rfl
  | «variant» content => exact .variant content
  | array element items =>
      cases items with
      | nil => exact .emptyArray element
      | cons item others => exact .array element item others
  | dictionary keyTy valueTy entries =>
      cases entries with
      | nil => exact .emptyDictionary keyTy valueTy
      | cons entry others => exact .dictionary keyTy valueTy entry others
  | struct fields => exact .struct fields

/-- The shape of the value that an annotated text begins with. -/
def Shape.ofText : List Char → Shape
  | '<' :: _ => .variant
  | '@' :: _ => .empty
  | '[' :: _ => .array
  | '\x7b' :: _ => .dictionary
  | '(' :: _ => .struct
  | '"' :: _ => .scalar .string
  | 'o' :: _ => .scalar .objectPath
  | 's' :: _ => .scalar .signature
  | 'b' :: _ => .scalar .byte
  | 't' :: _ | 'f' :: _ => .scalar .boolean
  | 'i' :: 'n' :: 't' :: '1' :: _ => .scalar .int16
  | 'i' :: _ => .scalar .int64
  | 'u' :: 'i' :: 'n' :: 't' :: '1' :: _ => .scalar .uint16
  | 'u' :: 'i' :: 'n' :: 't' :: '3' :: _ => .scalar .uint32
  | 'u' :: _ => .scalar .uint64
  | _ => .scalar .int32

/-! ### Arrays that are no byte strings -/

theorem byteString?_cons {item : Value} (rest : List Value) (other : item.ty ≠ .basic .byte) :
    byteString? (item :: rest) = none := by
  have noBytes : bytes? (item :: rest) = none := by
    unfold bytes?
    split
    · rename_i empty
      cases empty
    · rename_i shape
      cases shape
      exact absurd rfl other
    · rfl
  rw [byteString?, noBytes]

theorem Value.text_array_cons (annotate : Bool) (element : Ty) {item : Value} (rest : List Value)
    (other : item.ty ≠ .basic .byte) :
    (Value.array element (item :: rest)).text annotate =
      '[' :: (item.text annotate ++ (following (Value.text false) rest ++ [']'])) := by
  rw [Value.text, Value.form, byteString?_cons rest other]
  dsimp only
  rw [String.toList_append, String.toList_append, Text.toList_intercalate_comma,
    Value.following_forms]
  simp [Value.text]

/-! ### Scalars -/

theorem hexByte_inj {octet octet' : UInt8} (same : hexByte octet = hexByte octet') :
    octet = octet' := by
  have bound := octet.toNat_lt
  have bound' := octet'.toNat_lt
  have digits := congrArg (fun text => text.toList.map Text.hexDigit?) same
  simp only [hexByte, String.toList_ofList, List.map_cons, List.map_nil,
    Text.hexDigit?_digitChar (show octet.toNat / 16 < 16 by omega),
    Text.hexDigit?_digitChar (show octet'.toNat / 16 < 16 by omega),
    Text.hexDigit?_digitChar (show octet.toNat % 16 < 16 by omega),
    Text.hexDigit?_digitChar (show octet'.toNat % 16 < 16 by omega), List.cons.injEq,
    Option.some.injEq] at digits
  apply UInt8.toNat_inj.mp
  omega

theorem hexByte_append_inj {octet octet' : UInt8} {rest rest' : List Char}
    (same : (hexByte octet).toList ++ rest = (hexByte octet').toList ++ rest') :
    octet = octet' ∧ rest = rest' := by
  obtain ⟨digits, rests⟩ := List.append_inj same (by simp [hexByte])
  exact ⟨hexByte_inj (String.toList_injective digits), rests⟩

/-- The text of a scalar tells it among the scalars of its kind, unless these are doubles. -/
theorem Scalar.contained_told {first second : Scalar} (same : first.kind = second.kind)
    (single : first.kind ≠ .double) :
    Told (fun value : Scalar => value.contained.toList) first second := by
  have natural (n n' : Nat) : Told (fun number : Nat => number.repr.toList) n n' :=
    fun _ _ stops stops' => Text.repr_append_inj stops stops'
  have integral (i i' : Int) : Told (fun number : Int => number.repr.toList) i i' :=
    fun _ _ stops stops' => Text.int_repr_append_inj stops stops'
  have quoted (text text' : String) : Told (fun text => (Text.quoted text).toList) text text' :=
    fun _ _ _ _ => Text.quoted_append_inj
  -- Scalars of different kinds are ruled out first: one case is left for each kind.
  cases first <;> cases second <;> cases same
  case byte.byte value value' =>
    intro rest rest' _ _ equal
    simp only [Scalar.contained, String.toList_append, List.append_assoc] at equal
    obtain ⟨values, rests⟩ := hexByte_append_inj (List.append_cancel_left equal)
    exact ⟨congrArg Scalar.byte values, rests⟩
  case boolean.boolean value value' =>
    intro rest rest' _ _ equal
    cases value <;> cases value' <;> simp [Scalar.contained] at equal ⊢ <;> exact equal
  case int16.int16 value value' =>
    exact (integral _ _).map rfl rfl fun same => congrArg Scalar.int16 (Int16.toInt_inj.mp same)
  case uint16.uint16 value value' =>
    exact (natural _ _).map rfl rfl fun same => congrArg Scalar.uint16 (UInt16.toNat_inj.mp same)
  case int32.int32 value value' =>
    exact (integral _ _).map rfl rfl fun same => congrArg Scalar.int32 (Int32.toInt_inj.mp same)
  case uint32.uint32 value value' =>
    exact (natural _ _).map rfl rfl fun same => congrArg Scalar.uint32 (UInt32.toNat_inj.mp same)
  case int64.int64 value value' =>
    exact (integral _ _).map rfl rfl fun same => congrArg Scalar.int64 (Int64.toInt_inj.mp same)
  case uint64.uint64 value value' =>
    exact (natural _ _).map rfl rfl fun same => congrArg Scalar.uint64 (UInt64.toNat_inj.mp same)
  case double.double => exact absurd rfl single
  case string.string value value' => exact (quoted _ _).map rfl rfl (congrArg Scalar.string)
  case objectPath.objectPath value value' =>
    exact (quoted _ _).map rfl rfl (congrArg Scalar.objectPath)
  case signature.signature value value' =>
    exact (quoted _ _).map rfl rfl (congrArg Scalar.signature)

/-! ### The first characters -/

theorem Shape.ofText_number {c : Char} (first : c = '-' ∨ c.isDigit = true) (text : List Char) :
    Shape.ofText (c :: text) = .scalar .int32 := by
  rcases first with rfl | digit
  · rfl
  · unfold Shape.ofText
    split <;> first
      | rfl
      | (rename_i shape; cases shape; exact absurd digit (by decide))

/-- An annotated text begins with the shape of the value. -/
theorem Value.ofText_text {ty : Ty} {value : Value} (plain : value.IsPlain ty) (rest : List Char) :
    Shape.ofText (value.text true ++ rest) = value.shape := by
  cases value with
  | scalar value =>
      rw [Value.text_scalar, if_pos rfl, Value.shape]
      cases value with
      | int32 value =>
          obtain ⟨first, digits, shape, start⟩ := Text.exists_int_repr_eq_cons value.toInt
          have contained : (Scalar.int32 value).contained.toList = first :: digits := shape
          rw [contained]
          exact Shape.ofText_number start _
      | boolean value => cases value <;> simp [Basic.annotation, Scalar.kind, Scalar.contained, Shape.ofText]
      | double value => exact absurd rfl plain.plain.1
      | string value =>
          simp [Basic.annotation, Scalar.kind, Scalar.contained, Text.toList_quoted, Shape.ofText]
      | _ => simp [Basic.annotation, Scalar.kind, Shape.ofText]
  | «variant» content =>
      rw [Value.text_variant]
      rfl
  | array element items =>
      cases items with
      | nil =>
          rw [Value.text_array_nil, if_pos rfl]
          rfl
      | cons item others =>
          rw [Value.text_array_cons true element others (plain.item_ne_byte rfl)]
          rfl
  | dictionary keyTy valueTy entries =>
      cases entries with
      | nil =>
          rw [Value.text_dictionary_nil, if_pos rfl]
          rfl
      | cons entry others =>
          rw [Value.text_dictionary_cons]
          rfl
  | struct fields =>
      cases fields with
      | nil => rfl
      | cons field others =>
          rw [Value.text_struct_cons]
          rfl

end SessionProbe.Wire
