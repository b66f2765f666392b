import SessionProbe.Proofs.Wire.Shape
import SessionProbe.Proofs.Wire.Spelling

set_option autoImplicit false

/-!
Containers told by their texts. Without doubles and arrays of bytes, the text of a container leaves
no doubt about what is in it: `Value.told` says so of the text form of a value in front of any
delimiter, and `Value.render_eq_iff` of whole texts.
-/

namespace SessionProbe.Wire

open Text (Delimited Told following)

/-! ### Types that are known or shown -/

/-- Whether two values of these types can be told apart by their texts: the types are known, or the
texts are annotated. -/
def Alike (annotate : Bool) (ty ty' : Ty) : Prop :=
  ty = ty' ∨ annotate = true ∧ ty.ReadsBack ∧ ty'.ReadsBack

section Alike

variable {annotate : Bool}

theorem Alike.of_array {element element' : Ty}
    (alike : Alike annotate (.array element) (.array element')) :
    Alike annotate element element' := by
  rcases alike with same | ⟨annotated, back, back'⟩
  · exact Or.inl (Ty.array.inj same)
  · exact Or.inr ⟨annotated, back.of_element, back'.of_element⟩

theorem Alike.of_dictionary {keyTy keyTy' valueTy valueTy' : Ty}
    (alike : Alike annotate (.dictionary keyTy valueTy) (.dictionary keyTy' valueTy')) :
    Alike annotate keyTy keyTy' ∧ Alike annotate valueTy valueTy' := by
  rcases alike with same | ⟨annotated, back, back'⟩
  · obtain ⟨keys, values⟩ := Ty.dictionary.inj same
    exact ⟨Or.inl keys, Or.inl values⟩
  · obtain ⟨key, value⟩ := back.of_dictionary
    obtain ⟨key', value'⟩ := back'.of_dictionary
    exact ⟨Or.inr ⟨annotated, key, key'⟩, Or.inr ⟨annotated, value, value'⟩⟩

theorem eq_of_mem_zip {α β : Type} {f : α → β} {items items' : List α}
    (same : items.map f = items'.map f) : ∀ pair ∈ items.zip items', f pair.1 = f pair.2 := by
  induction items generalizing items' with
  | nil => exact List.forall_mem_nil _
  | cons item rest ih =>
      cases items' with
      | nil => exact List.forall_mem_nil _
      | cons item' rest' =>
          obtain ⟨first, later⟩ := List.cons.inj same
          exact List.forall_mem_cons.mpr ⟨first, ih later⟩

theorem Alike.of_struct {fields fields' : List Value}
    (alike : Alike annotate (.struct (Value.types fields)) (.struct (Value.types fields'))) :
    ∀ pair ∈ fields.zip fields', Alike annotate pair.1.ty pair.2.ty := by
  rw [Value.types_eq_map, Value.types_eq_map] at alike
  intro pair member
  rcases alike with same | ⟨annotated, back, back'⟩
  · exact Or.inl (eq_of_mem_zip (Ty.struct.inj same) pair member)
  · obtain ⟨here, there⟩ := List.of_mem_zip member
    exact Or.inr ⟨annotated, back.of_field _ (List.mem_map_of_mem here),
      back'.of_field _ (List.mem_map_of_mem there)⟩

end Alike

/-! ### Shapes -/

/-- What may not stand at the beginning of a text, since it ends what is around the text. -/
def closers : List Char := [')', ']', '\x7d']

theorem Scalar.exists_contained_eq_cons (value : Scalar) (single : value.kind ≠ .double) :
    ∃ first rest, value.contained.toList = first :: rest ∧ first ∉ closers := by
  have number {first : Char} (start : first = '-' ∨ first.isDigit = true) : first ∉ closers := by
    rcases start with rfl | digit
    · decide
    · intro closes
      simp only [closers, List.mem_cons, List.not_mem_nil, or_false] at closes
      rcases closes with rfl | rfl | rfl <;> exact absurd digit (by decide)
  have signed (i : Int) : ∃ first rest, i.repr.toList = first :: rest ∧ first ∉ closers := by
    obtain ⟨first, rest, shape, start⟩ := Text.exists_int_repr_eq_cons i
    exact ⟨first, rest, shape, number start⟩
  have unsigned (n : Nat) : ∃ first rest, n.repr.toList = first :: rest ∧ first ∉ closers := by
    obtain ⟨first, rest, shape, digit⟩ := Text.exists_repr_eq_cons n
    exact ⟨first, rest, shape, number (Or.inr digit)⟩
  cases value with
  | byte value => exact ⟨'0', _, String.toList_append, by decide⟩
  | boolean value => cases value <;> exact ⟨_, _, rfl, by decide⟩
  | int16 value => exact signed _
  | uint16 value => exact unsigned _
  | int32 value => exact signed _
  | uint32 value => exact unsigned _
  | int64 value => exact signed _
  | uint64 value => exact unsigned _
  | double value => exact absurd rfl single
  | string value => exact ⟨_, _, Text.toList_quoted value, by decide⟩
  | objectPath value => exact ⟨_, _, Text.toList_quoted value, by decide⟩
  | signature value => exact ⟨_, _, Text.toList_quoted value, by decide⟩

theorem Basic.annotation_eq (kind : Basic) :
    kind.annotation.toList = [] ∨
      ∃ first rest, kind.annotation.toList = first :: rest ∧ first ∉ closers := by
  cases kind with
  | boolean | int32 | double | string | handle => exact Or.inl rfl
  | _ => exact Or.inr ⟨_, _, rfl, by decide⟩

theorem Value.exists_text_eq_cons {ty : Ty} {value : Value} (plain : value.IsPlain ty)
    (annotate : Bool) :
    ∃ first rest, value.text annotate = first :: rest ∧ first ∉ closers := by
  cases value with
  | scalar value =>
      obtain ⟨first, rest, shape, opens⟩ := value.exists_contained_eq_cons plain.kind_ne_double
      rw [Value.text_scalar, shape]
      cases annotate with
      | false => exact ⟨first, rest, rfl, opens⟩
      | true =>
          rcases value.kind.annotation_eq with none | ⟨letter, letters, spelled, other⟩
          · rw [if_pos rfl, none]
            exact ⟨first, rest, rfl, opens⟩
          · rw [if_pos rfl, spelled]
            exact ⟨letter, _, rfl, other⟩
  | «variant» content => exact ⟨_, _, Value.text_variant annotate content, by decide⟩
  | array element items =>
      cases items with
      | nil =>
          rw [Value.text_array_nil]
          cases annotate <;> exact ⟨_, _, rfl, by decide⟩
      | cons item others =>
          exact ⟨_, _, Value.text_array_cons annotate element others (plain.item_ne_byte rfl),
            by decide⟩
  | dictionary keyTy valueTy entries =>
      cases entries with
      | nil =>
          rw [Value.text_dictionary_nil]
          cases annotate <;> exact ⟨_, _, rfl, by decide⟩
      | cons entry others =>
          exact ⟨_, _, Value.text_dictionary_cons annotate keyTy valueTy entry others, by decide⟩
  | struct fields =>
      cases fields with
      | nil => exact ⟨_, _, Value.text_struct_nil annotate, by decide⟩
      | cons field others =>
          exact ⟨_, _, Value.text_struct_cons annotate field others, by decide⟩

theorem Value.IsPlain.not_closed {ty : Ty} {value : Value} (plain : value.IsPlain ty)
    {annotate : Bool} {rest rest' : List Char} (closer : Char) (closes : closer ∈ closers) :
    closer :: rest ≠ value.text annotate ++ rest' := by
  obtain ⟨first, behind, shape, opens⟩ := Value.exists_text_eq_cons plain annotate
  rw [shape]
  intro same
  obtain ⟨rfl, _⟩ := List.cons.inj same
  exact opens closes

section Shapes

variable {annotate : Bool} {ty ty' : Ty} {value other : Value} {rest rest' : List Char}

theorem Value.IsPlain.array_not_empty {element element' : Ty} {item : Value} {others : List Value}
    (plain : (Value.array element (item :: others)).IsPlain ty) :
    (Value.array element' []).text false ++ rest ≠
      (Value.array element (item :: others)).text false ++ rest' := by
  have opens := plain.of_item item List.mem_cons_self
  rw [Value.text_array_nil, if_neg Bool.false_ne_true,
    Value.text_array_cons false element others (plain.item_ne_byte rfl)]
  simp only [List.cons_append, List.nil_append, List.append_assoc]
  intro same
  exact opens.not_closed ']' (by decide) (List.cons.inj same).2

theorem Value.IsPlain.dictionary_not_empty {keyTy keyTy' valueTy valueTy' : Ty}
    {entry : Value × Value} {others : List (Value × Value)}
    (plain : (Value.dictionary keyTy valueTy (entry :: others)).IsPlain ty) :
    (Value.dictionary keyTy' valueTy' []).text false ++ rest ≠
      (Value.dictionary keyTy valueTy (entry :: others)).text false ++ rest' := by
  have opens := (plain.of_entry entry List.mem_cons_self).1
  rw [Value.text_dictionary_nil, if_neg Bool.false_ne_true, Value.text_dictionary_cons, entryText]
  simp only [List.cons_append, List.nil_append, List.append_assoc]
  intro same
  exact opens.not_closed '\x7d' (by decide) (List.cons.inj same).2

theorem Value.IsPlain.struct_not_empty {field : Value} {others : List Value}
    (plain : (Value.struct (field :: others)).IsPlain ty) :
    (Value.struct []).text annotate ++ rest ≠
      (Value.struct (field :: others)).text annotate ++ rest' := by
  have opens := plain.of_field field List.mem_cons_self
  rw [Value.text_struct_nil, Value.text_struct_cons]
  simp only [List.cons_append, List.nil_append, List.append_assoc]
  intro same
  exact opens.not_closed ')' (by decide) (List.cons.inj same).2

theorem Value.shape_eq (plain : value.IsPlain ty) (plain' : other.IsPlain ty')
    (alike : Alike annotate ty ty')
    (same : value.text annotate ++ rest = other.text annotate ++ rest') :
    value.shape = other.shape := by
  cases annotate with
  | true =>
      rw [← Value.ofText_text plain rest, same, Value.ofText_text plain' rest']
  | false =>
      -- The types are known here, so that the texts only have to tell empty containers from others.
      have types : value.ty = other.ty := by
        rcases alike with same | ⟨annotated, _⟩
        · rw [plain.typed.same, plain'.typed.same, same]
        · cases annotated
      cases value with
      | scalar value =>
          cases other with
          | scalar other => exact congrArg Shape.scalar (Ty.basic.inj types)
          | _ => cases types
      | «variant» content =>
          cases other with
          | «variant» content' => rfl
          | _ => cases types
      | array element items =>
          cases other with
          | array element' items' =>
              cases items with
              | nil =>
                  cases items' with
                  | nil => rfl
                  | cons item' others' => exact absurd same plain'.array_not_empty
              | cons item others =>
                  cases items' with
                  | nil => exact absurd same.symm plain.array_not_empty
                  | cons item' others' => rfl
          | _ => cases types
      | dictionary keyTy valueTy entries =>
          cases other with
          | dictionary keyTy' valueTy' entries' =>
              cases entries with
              | nil =>
                  cases entries' with
                  | nil => rfl
                  | cons entry' others' => exact absurd same plain'.dictionary_not_empty
              | cons entry others =>
                  cases entries' with
                  | nil => exact absurd same.symm plain.dictionary_not_empty
                  | cons entry' others' => rfl
          | _ => cases types
      | struct fields =>
          cases other with
          | struct fields' => rfl
          | _ => cases types

theorem Value.same_shape (plain : value.IsPlain ty) (plain' : other.IsPlain ty')
    (alike : Alike annotate ty ty')
    (same : value.text annotate ++ rest = other.text annotate ++ rest') :
    other.HasShape value.shape := by
  rw [Value.shape_eq plain plain' alike same]
  exact other.hasShape

end Shapes

/-! ### Values told by their texts -/

/-- Whether the text of a value tells it from the values that it can be taken for. -/
def Value.IsTold (value : Value) : Prop :=
  ∀ {annotate : Bool} {ty ty' : Ty} {other : Value}, value.IsPlain ty → other.IsPlain ty' →
    Alike annotate ty ty' → Told (Value.text annotate) value other

theorem Value.told_scalar (value : Scalar) : (Value.scalar value).IsTold := by
  intro annotate ty ty' other plain plain' alike rest rest' stops stops' same
  have shaped : other.HasShape (.scalar value.kind) :=
    Value.same_shape plain plain' alike same
  cases shaped with
  | scalar value' kinds =>
      rw [Value.text_scalar, Value.text_scalar, kinds, List.append_assoc, List.append_assoc] at same
      obtain ⟨values, rests⟩ := Scalar.contained_told kinds.symm plain.kind_ne_double rest rest'
        stops stops' (List.append_cancel_left same)
      exact ⟨congrArg Value.scalar values, rests⟩

theorem Value.told_variant {content : Value} (inner : content.IsTold) :
    (Value.variant content).IsTold := by
  intro annotate ty ty' other plain plain' alike rest rest' stops stops' same
  have shaped : other.HasShape .variant := Value.same_shape plain plain' alike same
  cases shaped with
  | «variant» content' =>
      simp only [Value.text_variant, List.cons_append, List.append_assoc, List.nil_append,
        List.cons.injEq, true_and] at same
      have back := Ty.readsBack_of_ofSignature plain.typed.signed.1
      have back' := Ty.readsBack_of_ofSignature plain'.typed.signed.1
      obtain ⟨contents, behind⟩ := inner plain.of_content plain'.of_content
        (Or.inr ⟨rfl, back, back'⟩) _ _ (Text.delimited_cons _ (by decide))
        (Text.delimited_cons _ (by decide)) same
      exact ⟨congrArg Value.variant contents, (List.cons.inj behind).2⟩

theorem Value.eq_of_empty {value other : Value} (empty : value.HasShape .empty)
    (empty' : other.HasShape .empty) (types : value.ty = other.ty) : value = other := by
  cases empty with
  | emptyArray element =>
      cases empty' with
      | emptyArray element' => rw [Ty.array.inj types]
      | emptyDictionary keyTy valueTy => cases types
  | emptyDictionary keyTy valueTy =>
      cases empty' with
      | emptyArray element => cases types
      | emptyDictionary keyTy' valueTy' =>
          obtain ⟨keys, values⟩ := Ty.dictionary.inj types
          rw [keys, values]

theorem Value.exists_text_empty {value : Value} (empty : value.HasShape .empty) :
    ∃ brackets, value.text true = '@' :: (value.ty.signature.toList ++ brackets) := by
  cases empty with
  | emptyArray element =>
      rw [Value.text_array_nil, if_pos rfl, List.cons_append, List.append_assoc]
      exact ⟨_, rfl⟩
  | emptyDictionary keyTy valueTy =>
      rw [Value.text_dictionary_nil, if_pos rfl, List.cons_append, List.append_assoc]
      exact ⟨_, rfl⟩

/-- The text of an empty array or dictionary shows its type, as far as that is not known. -/
theorem Value.told_empty {value : Value} (empty : value.HasShape .empty) : value.IsTold := by
  intro annotate ty ty' other plain plain' alike rest rest' stops stops' same
  have empty' : other.HasShape .empty := by
    have shaped := Value.same_shape plain plain' alike same
    cases empty <;> exact shaped
  have types : value.ty = other.ty := by
    rcases alike with known | ⟨rfl, back, back'⟩
    · rw [plain.typed.same, plain'.typed.same, known]
    · obtain ⟨brackets, spelled⟩ := Value.exists_text_empty empty
      obtain ⟨brackets', spelled'⟩ := Value.exists_text_empty empty'
      rw [spelled, spelled', plain.typed.same, plain'.typed.same] at same
      simp only [List.cons_append, List.append_assoc, List.cons.injEq, true_and] at same
      rw [plain.typed.same, plain'.typed.same]
      exact back.signature_inj back' same
  have values := Value.eq_of_empty empty empty' types
  subst values
  exact ⟨rfl, List.append_cancel_left same⟩

theorem Value.told_array {element : Ty} {items : List Value} (each : ∀ item ∈ items, item.IsTold) :
    (Value.array element items).IsTold := by
  cases items with
  | nil => exact Value.told_empty (.emptyArray element)
  | cons item others =>
      intro annotate ty ty' other plain plain' alike rest rest' stops stops' same
      have shaped : other.HasShape .array := Value.same_shape plain plain' alike same
      cases shaped with
      | array element' item' others' =>
          obtain ⟨itemPlain, othersPlain⟩ := List.forall_mem_cons.mp plain.of_item
          obtain ⟨itemPlain', othersPlain'⟩ := List.forall_mem_cons.mp plain'.of_item
          obtain ⟨itemTold, othersTold⟩ := List.forall_mem_cons.mp each
          rw [← plain.typed.same, ← plain'.typed.same] at alike
          rw [Value.text_array_cons annotate element others (plain.item_ne_byte rfl),
            Value.text_array_cons annotate element' others' (plain'.item_ne_byte rfl)] at same
          simp only [List.cons_append, List.append_assoc, List.nil_append, List.cons.injEq,
            true_and] at same
          obtain ⟨first, behind⟩ := itemTold itemPlain itemPlain' alike.of_array _ _
            (Text.delimited_following _ (by decide)) (Text.delimited_following _ (by decide)) same
          -- The first item shows the type of the others, whose texts are not annotated.
          have known : element = element' := by
            rw [← itemPlain.typed.same, first, itemPlain'.typed.same]
          have told : ∀ pair ∈ others.zip others', Told (Value.text false) pair.1 pair.2 := by
            intro pair member
            obtain ⟨here, there⟩ := List.of_mem_zip member
            exact othersTold _ here (othersPlain _ here) (othersPlain' _ there) (Or.inl known)
          obtain ⟨later, rests⟩ := Text.following_inj (by decide) (by decide) told behind
          rw [known, first, later]
          exact ⟨rfl, rests⟩

theorem entry_told {annotate : Bool} {keyTy keyTy' valueTy valueTy' : Ty}
    {entry entry' : Value × Value} (told : entry.1.IsTold ∧ entry.2.IsTold)
    (plain : entry.1.IsPlain keyTy ∧ entry.2.IsPlain valueTy)
    (plain' : entry'.1.IsPlain keyTy' ∧ entry'.2.IsPlain valueTy')
    (keys : Alike annotate keyTy keyTy') (values : Alike annotate valueTy valueTy') :
    Told (entryText annotate) entry entry' := by
  intro rest rest' stops stops' same
  simp only [entryText, List.append_assoc, List.cons_append] at same
  obtain ⟨sameKey, behindKey⟩ := told.1 plain.1 plain'.1 keys _ _
    (Text.delimited_cons _ (by decide)) (Text.delimited_cons _ (by decide)) same
  obtain ⟨sameValue, rests⟩ := told.2 plain.2 plain'.2 values _ _ stops stops'
    (List.cons.inj (List.cons.inj behindKey).2).2
  exact ⟨Prod.ext sameKey sameValue, rests⟩

theorem Value.told_dictionary {keyTy valueTy : Ty} {entries : List (Value × Value)}
    (each : ∀ entry ∈ entries, entry.1.IsTold ∧ entry.2.IsTold) :
    (Value.dictionary keyTy valueTy entries).IsTold := by
  cases entries with
  | nil => exact Value.told_empty (.emptyDictionary keyTy valueTy)
  | cons entry others =>
      intro annotate ty ty' other plain plain' alike rest rest' stops stops' same
      have shaped : other.HasShape .dictionary := Value.same_shape plain plain' alike same
      cases shaped with
      | dictionary keyTy' valueTy' entry' others' =>
          obtain ⟨entryPlain, othersPlain⟩ := List.forall_mem_cons.mp plain.of_entry
          obtain ⟨entryPlain', othersPlain'⟩ := List.forall_mem_cons.mp plain'.of_entry
          obtain ⟨entryTold, othersTold⟩ := List.forall_mem_cons.mp each
          rw [← plain.typed.same, ← plain'.typed.same] at alike
          obtain ⟨keys, values⟩ := alike.of_dictionary
          rw [Value.text_dictionary_cons, Value.text_dictionary_cons] at same
          simp only [List.cons_append, List.append_assoc, List.nil_append, List.cons.injEq,
            true_and] at same
          obtain ⟨first, behind⟩ := entry_told entryTold entryPlain entryPlain' keys values _ _
            (Text.delimited_following _ (by decide)) (Text.delimited_following _ (by decide)) same
          have knownKey : keyTy = keyTy' := by
            rw [← entryPlain.1.typed.same, first, entryPlain'.1.typed.same]
          have knownValue : valueTy = valueTy' := by
            rw [← entryPlain.2.typed.same, first, entryPlain'.2.typed.same]
          have told : ∀ pair ∈ others.zip others', Told (entryText false) pair.1 pair.2 := by
            intro pair member
            obtain ⟨here, there⟩ := List.of_mem_zip member
            exact entry_told (othersTold _ here) (othersPlain _ here) (othersPlain' _ there)
              (Or.inl knownKey) (Or.inl knownValue)
          obtain ⟨later, rests⟩ := Text.following_inj (by decide) (by decide) told behind
          rw [knownKey, knownValue, first, later]
          exact ⟨rfl, rests⟩

theorem Value.structEnd_inj {annotate : Bool} {fields fields' : List Value}
    (told : ∀ pair ∈ fields.zip fields', Told (Value.text annotate) pair.1 pair.2)
    {rest rest' : List Char}
    (same : Value.structEnd annotate fields ++ rest = Value.structEnd annotate fields' ++ rest') :
    fields = fields' ∧ rest = rest' := by
  cases fields with
  | nil =>
      cases fields' with
      | nil => exact ⟨rfl, List.append_cancel_left same⟩
      | cons field' others' =>
          have blank := (List.cons.inj (List.cons.inj same).2).1
          exact absurd blank (by decide)
  | cons field others =>
      cases fields' with
      | nil =>
          have blank := (List.cons.inj (List.cons.inj same).2).1
          exact absurd blank (by decide)
      | cons field' others' =>
          simp only [Value.structEnd, List.append_assoc, List.cons_append, List.nil_append] at same
          exact Text.following_inj (by decide) (by decide) told same

theorem Value.delimited_structEnd {annotate : Bool} (fields : List Value) (rest : List Char) :
    Delimited (Value.structEnd annotate fields ++ rest) := by
  cases fields with
  | nil => exact Text.delimited_cons _ (by decide)
  | cons field others => exact Text.delimited_cons _ (by decide)

theorem Value.told_struct {fields : List Value} (each : ∀ field ∈ fields, field.IsTold) :
    (Value.struct fields).IsTold := by
  intro annotate ty ty' other plain plain' alike rest rest' stops stops' same
  have shaped : other.HasShape .struct := Value.same_shape plain plain' alike same
  cases shaped with
  | struct fields' =>
      rw [← plain.typed.same, ← plain'.typed.same] at alike
      have told : ∀ pair ∈ fields.zip fields', Told (Value.text annotate) pair.1 pair.2 := by
        intro pair member
        obtain ⟨here, there⟩ := List.of_mem_zip member
        exact each _ here (plain.of_field _ here) (plain'.of_field _ there)
          (alike.of_struct pair member)
      cases fields with
      | nil =>
          cases fields' with
          | nil => exact ⟨rfl, List.append_cancel_left same⟩
          | cons field' others' => exact absurd same plain'.struct_not_empty
      | cons field others =>
          cases fields' with
          | nil => exact absurd same.symm plain.struct_not_empty
          | cons field' others' =>
              rw [List.zip_cons_cons] at told
              obtain ⟨fieldTold, othersTold⟩ := List.forall_mem_cons.mp told
              simp only [Value.text_struct_cons, List.cons_append, List.append_assoc,
                List.cons.injEq, true_and] at same
              obtain ⟨first, behind⟩ := fieldTold _ _ (Value.delimited_structEnd _ _)
                (Value.delimited_structEnd _ _) same
              obtain ⟨later, rests⟩ := Value.structEnd_inj othersTold behind
              dsimp only at first
              rw [first, later]
              exact ⟨rfl, rests⟩

theorem Value.told (value : Value) : value.IsTold := by
  induction value using Value.memberwise with
  | scalar value => exact Value.told_scalar value
  | isVariant content ih => exact Value.told_variant ih
  | array element items ih => exact Value.told_array ih
  | dictionary keyTy valueTy entries ih => exact Value.told_dictionary ih
  | struct fields ih => exact Value.told_struct ih

/-! ### Whole texts -/

/-- The types whose values hold others and are no variants. -/
def Ty.IsContainer : Ty → Prop
  | .array _ | .dictionary _ _ | .struct _ => True
  | .basic _ | .variant | .entry _ _ => False

theorem Value.toList_render {value : Value} (container : value.ty.IsContainer) :
    value.render.toList = value.normal.text true := by
  rw [← Value.ty_normal value] at container
  rw [Value.render, Value.text]
  generalize value.normal = sorted at container
  cases sorted with
  | scalar value => exact absurd container id
  | «variant» content => exact absurd container id
  | _ => rfl

/-- The text of an array, dictionary or struct in which there is neither a double nor an array of
bytes determines it: two of one type have the same text just if they are the same with all their
dictionaries sorted, and in particular sorted ones are the same. -/
theorem Value.render_eq_iff {ty : Ty} (container : ty.IsContainer) {first second : Value}
    (plain : first.IsPlain ty) (plain' : second.IsPlain ty) :
    (first.render = second.render ↔ first.normal = second.normal) ∧
      (first.Every Value.Rises → second.Every Value.Rises →
        first.render = second.render → first = second) := by
  have normals : first.render = second.render → first.normal = second.normal := by
    intro same
    have texts := congrArg String.toList same
    rw [Value.toList_render (plain.typed.same ▸ container),
      Value.toList_render (plain'.typed.same ▸ container)] at texts
    have sorted : first.normal.IsPlain ty := ⟨plain.typed.normal, plain.plain.normal⟩
    have sorted' : second.normal.IsPlain ty := ⟨plain'.typed.normal, plain'.plain.normal⟩
    exact (Value.told first.normal sorted sorted' (Or.inl rfl) [] [] Text.delimited_nil
      Text.delimited_nil (by rw [texts])).1
  refine ⟨⟨normals, fun same => ?_⟩, fun rises rises' same => ?_⟩
  · rw [Value.render, Value.render, same]
  · rw [← Value.normal_eq_self rises, normals same, Value.normal_eq_self rises']

/-- A text that needs escapes, beside a number that needs its type. -/
def nameSetting : Value × Value :=
  (.scalar (.string "name"),
    .variant (.struct [.scalar (.string "\"a\", <b>"), .scalar (.int16 (-5))]))

def pathsSetting : Value × Value :=
  (.scalar (.string "paths"), .variant (.array (.basic .objectPath) []))

def settings (entries : List (Value × Value)) : Value :=
  .dictionary (.basic .string) .variant entries

theorem settings_isPlain {entries : List (Value × Value)}
    (known : ∀ entry ∈ entries, entry = nameSetting ∨ entry = pathsSetting) :
    (settings entries).IsPlain (.dictionary (.basic .string) .variant) where
  typed := by
    refine Value.isOf_dictionary fun entry member => ?_
    rcases known entry member with rfl | rfl
    · refine ⟨⟨rfl, trivial, trivial⟩, rfl, ⟨trivial, trivial, trivial⟩, ?_, trivial, trivial, trivial⟩
      exact Ty.ofSignature_signature ⟨by decide, trivial, trivial, trivial⟩
    · refine ⟨⟨rfl, trivial, trivial⟩, rfl, trivial, ?_, trivial⟩
      exact Ty.ofSignature_signature trivial
  plain := by
    refine ⟨by simp [Ty.IsPlain, Value.ty], Value.entriesEvery_iff.mpr fun entry member => ?_⟩
    rcases known entry member with rfl | rfl <;>
      simp [nameSetting, pathsSetting, Value.Every, Value.AllEvery, Ty.IsPlain, Value.ty,
        Value.types, Scalar.kind]

/-- Two orders of the same entries have one text, and once sorted they are the same value. -/
theorem settings_told :
    (Ty.dictionary (.basic .string) .variant).IsContainer ∧
      (settings [pathsSetting, nameSetting]).IsPlain (.dictionary (.basic .string) .variant) ∧
      (settings [nameSetting, pathsSetting]).IsPlain (.dictionary (.basic .string) .variant) ∧
      (settings [pathsSetting, nameSetting]).render =
        "\x7b\"name\": <(\"\\\"a\\\", <b>\", int16 -5)>, \"paths\": <@ao []>\x7d" ∧
      (settings [pathsSetting, nameSetting]).normal =
        (settings [nameSetting, pathsSetting]).normal ∧
      (settings [nameSetting, pathsSetting]).Every Value.Rises ∧
      (settings [pathsSetting, nameSetting]).normal.Every Value.Rises ∧
      (settings [pathsSetting, nameSetting]).normal = settings [nameSetting, pathsSetting] := by
  have container : (Ty.dictionary (.basic .string) .variant).IsContainer := trivial
  have plain : (settings [pathsSetting, nameSetting]).IsPlain
      (.dictionary (.basic .string) .variant) := settings_isPlain (by simp)
  have plain' : (settings [nameSetting, pathsSetting]).IsPlain
      (.dictionary (.basic .string) .variant) := settings_isPlain (by simp)
  have rises : (settings [nameSetting, pathsSetting]).Every Value.Rises := by
    refine ⟨?_, ⟨trivial, ⟨trivial, trivial, trivial, trivial, trivial⟩, trivial,
      ⟨trivial, trivial, trivial⟩, trivial⟩⟩
    simp only [Value.Rises, Rising, List.pairwise_cons, List.forall_mem_singleton,
      List.not_mem_nil, List.Pairwise.nil, and_true, false_implies, implies_true]
    decide
  have same : (settings [pathsSetting, nameSetting]).render =
      (settings [nameSetting, pathsSetting]).render := by
    decide +kernel
  have equal := (Value.render_eq_iff container plain plain').1.mp same
  have rises' : (settings [pathsSetting, nameSetting]).normal.Every Value.Rises := by
    rw [equal, Value.normal_eq_self rises]
    exact rises
  have sorted : (settings [pathsSetting, nameSetting]).normal.IsPlain
      (.dictionary (.basic .string) .variant) := ⟨plain.typed.normal, plain.plain.normal⟩
  have whole := (Value.render_eq_iff container sorted plain').2 rises' rises (by decide +kernel)
  exact ⟨container, plain, plain', by decide +kernel, equal, rises, rises', whole⟩

end SessionProbe.Wire
