import Mathlib.Data.List.Basic
import SessionProbe.Proofs.Text.Digits

set_option autoImplicit false

/-!
Texts side by side. Items whose texts are told apart, each behind a comma and a blank, are told
apart together in front of a closing bracket.
-/

namespace SessionProbe.Text

/-- Whether the texts of two things, with anything behind them that does not go on with a digit,
tell them apart. -/
def Told {α : Type} (text : α → List Char) (first second : α) : Prop :=
  ∀ rest rest', Delimited rest → Delimited rest' →
    text first ++ rest = text second ++ rest' → first = second ∧ rest = rest'

theorem Told.map {α β : Type} {text : α → List Char} {inner : β → List Char} {first second : α}
    {a b : β} (told : Told inner a b) (firstText : text first = inner a)
    (secondText : text second = inner b) (same : a = b → first = second) :
    Told text first second := by
  intro rest rest' stops stops' equal
  rw [firstText, secondText] at equal
  obtain ⟨inside, rests⟩ := told rest rest' stops stops' equal
  exact ⟨same inside, rests⟩

/-! ### Items behind separators -/

/-- The texts of items, each behind a comma and a blank. -/
def following {α : Type} (text : α → List Char) (items : List α) : List Char :=
  items.flatMap fun item => ',' :: ' ' :: text item

theorem intercalate_cons_eq (separator first : List Char) (rest : List (List Char)) :
    separator.intercalate (first :: rest) = first ++ rest.flatMap (separator ++ ·) := by
  induction rest generalizing first with
  | nil => simp [List.intercalate]
  | cons second others ih =>
      rw [List.intercalate_cons_cons, ih, List.flatMap_cons]
      simp only [List.append_assoc]

theorem toList_intercalate_comma (first : String) (rest : List String) :
    (String.intercalate ", " (first :: rest)).toList =
      first.toList ++ following String.toList rest := by
  rw [String.toList_intercalate, List.map_cons, intercalate_cons_eq, following, List.flatMap_map]
  rfl

section Following

variable {α : Type} {text : α → List Char} {close : Char} {rest rest' : List Char}

theorem delimited_following (items : List α) (ends : close.isDigit = false) :
    Delimited (following text items ++ close :: rest) := by
  cases items with
  | nil => exact delimited_cons _ ends
  | cons item others => exact delimited_cons _ (by decide)

/-- Items in front of a closing bracket are told one by one. -/
theorem following_inj (ends : close.isDigit = false) (notComma : close ≠ ',')
    {items items' : List α} (told : ∀ pair ∈ items.zip items', Told text pair.1 pair.2)
    (same : following text items ++ close :: rest = following text items' ++ close :: rest') :
    items = items' ∧ rest = rest' := by
  induction items generalizing items' with
  | nil =>
      cases items' with
      | nil => exact ⟨rfl, (List.cons.inj same).2⟩
      | cons item' others' => exact absurd (List.cons.inj same).1 notComma
  | cons item others ih =>
      cases items' with
      | nil => exact absurd (List.cons.inj same).1.symm notComma
      | cons item' others' =>
          rw [List.zip_cons_cons, List.forall_mem_cons] at told
          simp only [following, List.flatMap_cons, List.cons_append, List.append_assoc,
            List.cons.injEq, true_and] at same
          obtain ⟨first, behind⟩ := told.1 _ _ (delimited_following others ends)
            (delimited_following others' ends) same
          obtain ⟨later, rests⟩ := ih told.2 behind
          exact ⟨List.cons_eq_cons.mpr ⟨first, later⟩, rests⟩

end Following

end SessionProbe.Text
