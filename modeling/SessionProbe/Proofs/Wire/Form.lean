import SessionProbe.Proofs.Text.Quoted
import SessionProbe.Proofs.Text.Separated
import SessionProbe.Proofs.Wire.Normal
import SessionProbe.Wire.Rendering

set_option autoImplicit false

/-!
The parts of a text form. A value in text form is spelled out as characters, with the parts where
they stand; the first characters of an annotated text tell the shape of the value, and the text of
a scalar tells the scalar once its kind is known.
-/

namespace SessionProbe.Wire

open Text (Delimited Told following)

/-! ### The characters of a text form -/

theorem Value.forms_eq_map (annotate : Bool) (values : List Value) :
    Value.forms annotate values = values.map (Value.form annotate) := by
  induction values with
  | nil => rfl
  | cons value rest ih => rw [Value.forms, ih, List.map_cons]

def Value.text (annotate : Bool) (value : Value) : List Char :=
  (value.form annotate).toList

def entryText (annotate : Bool) (entry : Value × Value) : List Char :=
  entry.1.text annotate ++ ':' :: ' ' :: entry.2.text annotate

theorem Value.following_entryForms (entries : List (Value × Value)) :
    following String.toList (Value.entryForms entries) = following (entryText false) entries := by
  induction entries with
  | nil => rfl
  | cons entry rest ih =>
      obtain ⟨key, value⟩ := entry
      simp only [following] at ih ⊢
      rw [Value.entryForms, List.flatMap_cons, List.flatMap_cons, ih]
      simp [entryText, Value.text]

theorem Value.following_forms (annotate : Bool) (values : List Value) :
    following String.toList (Value.forms annotate values) =
      following (Value.text annotate) values := by
  rw [Value.forms_eq_map, following, following, List.flatMap_map]
  rfl

section Characters

variable (annotate : Bool)

theorem Value.text_scalar (value : Scalar) :
    (Value.scalar value).text annotate =
      (if annotate then value.kind.annotation.toList else []) ++ value.contained.toList := by
  rw [Value.text, Value.form, String.toList_append]
  split <;> rfl

theorem Value.text_variant (content : Value) :
    (Value.variant content).text annotate = '<' :: (content.text true ++ ['>']) := by
  simp [Value.text, Value.form]

theorem Value.text_array_nil (element : Ty) :
    (Value.array element []).text annotate =
      (if annotate then '@' :: ((Ty.array element).signature.toList ++ [' ']) else []) ++
        ['[', ']'] := by
  rw [Value.text, Value.form]
  split <;> simp

theorem Value.text_dictionary_nil (keyTy valueTy : Ty) :
    (Value.dictionary keyTy valueTy []).text annotate =
      (if annotate then '@' :: ((Ty.dictionary keyTy valueTy).signature.toList ++ [' ']) else []) ++
        ['\x7b', '\x7d'] := by
  rw [Value.text, Value.form]
  split <;> simp

theorem Value.text_dictionary_cons (keyTy valueTy : Ty) (entry : Value × Value)
    (rest : List (Value × Value)) :
    (Value.dictionary keyTy valueTy (entry :: rest)).text annotate =
      '\x7b' :: (entryText annotate entry ++ (following (entryText false) rest ++ ['\x7d'])) := by
  obtain ⟨key, value⟩ := entry
  rw [Value.text, Value.form, String.toList_append, String.toList_append,
    Text.toList_intercalate_comma, Value.following_entryForms]
  simp [entryText, Value.text]

/-- What stands behind the first field of a struct: one field alone has a comma behind it. -/
def Value.structEnd (fields : List Value) : List Char :=
  match fields with
  | [] => [',', ')']
  | fields => following (Value.text annotate) fields ++ [')']

theorem Value.text_struct_nil : (Value.struct []).text annotate = ['(', ')'] := by
  simp [Value.text, Value.form, Value.forms]

theorem Value.text_struct_cons (field : Value) (rest : List Value) :
    (Value.struct (field :: rest)).text annotate =
      '(' :: (field.text annotate ++ Value.structEnd annotate rest) := by
  cases rest with
  | nil =>
      rw [Value.text, Value.form]
      simp [Value.text, Value.structEnd]
  | cons second others =>
      rw [Value.text, Value.form]
      · rw [Value.forms, String.toList_append, String.toList_append, Text.toList_intercalate_comma,
          Value.following_forms]
        simp [Value.text, Value.structEnd]
      · intro other single
        cases single

end Characters

end SessionProbe.Wire
