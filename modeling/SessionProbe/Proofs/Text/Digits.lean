import Mathlib.Data.List.Basic
import SessionProbe.Text.Hexadecimal

set_option autoImplicit false

/-!
Numbers told by their digits. A decimal number is told from whatever stands behind it, as long as
that is no further digit; hexadecimal digits read back as the number that they write.
-/

namespace SessionProbe.Text

/-- A front whose characters are told from the first one behind it is the same in equal texts. -/
theorem span_inj {told : Char → Bool} {front front' rest rest' : List Char}
    (inside : ∀ c ∈ front, told c = true) (inside' : ∀ c ∈ front', told c = true)
    (stops : ∀ c ∈ rest.head?, told c = false) (stops' : ∀ c ∈ rest'.head?, told c = false)
    (same : front ++ rest = front' ++ rest') : front = front' ∧ rest = rest' := by
  have none {text : List Char} (stops : ∀ c ∈ text.head?, told c = false) :
      text.takeWhile told = [] := by
    cases text with
    | nil => rfl
    | cons c text => exact List.takeWhile_cons_of_neg (by rw [stops c rfl]; decide)
  have fronts := congrArg (List.takeWhile told) same
  rw [List.takeWhile_append_of_pos inside, List.takeWhile_append_of_pos inside', none stops,
    none stops', List.append_nil, List.append_nil] at fronts
  subst fronts
  exact ⟨rfl, List.append_cancel_left same⟩

/-- Whether a text does not go on with a digit. -/
def Delimited (text : List Char) : Prop :=
  ∀ c ∈ text.head?, c.isDigit = false

theorem delimited_nil : Delimited [] := by
  intro c first
  cases first

theorem delimited_cons {c : Char} (text : List Char) (other : c.isDigit = false) :
    Delimited (c :: text) := by
  intro first here
  cases here
  exact other

/-! ### Decimal numbers -/

theorem exists_repr_eq_cons (n : Nat) :
    ∃ first digits, n.repr.toList = first :: digits ∧ first.isDigit = true := by
  rw [Nat.toList_repr]
  obtain ⟨first, digits, shape⟩ := List.exists_cons_of_ne_nil (@Nat.toDigits_ne_nil n 10)
  have member : first ∈ Nat.toDigits 10 n := by
    rw [shape]
    exact List.mem_cons_self
  exact ⟨first, digits, shape, Nat.isDigit_of_mem_toDigits (by decide) (by decide) member⟩

theorem exists_int_repr_eq_cons (i : Int) :
    ∃ first rest, i.repr.toList = first :: rest ∧ (first = '-' ∨ first.isDigit = true) := by
  rw [Int.repr_eq_if]
  split
  · obtain ⟨first, digits, shape, digit⟩ := exists_repr_eq_cons i.toNat
    exact ⟨first, digits, shape, Or.inr digit⟩
  · rw [String.toList_append]
    exact ⟨'-', _, rfl, Or.inl rfl⟩

section Decimal

variable {rest rest' : List Char} (stops : Delimited rest) (stops' : Delimited rest')
include stops stops'

theorem toDigits_append_inj {n n' : Nat}
    (same : Nat.toDigits 10 n ++ rest = Nat.toDigits 10 n' ++ rest') : n = n' ∧ rest = rest' := by
  have digits (number : Nat) : ∀ c ∈ Nat.toDigits 10 number, c.isDigit = true := fun c member =>
    Nat.isDigit_of_mem_toDigits (by decide) (by decide) member
  obtain ⟨fronts, rests⟩ := span_inj (digits n) (digits n') stops stops' same
  have numbers := congrArg (fun text => Nat.ofDigitChars 10 text 0) fronts
  rw [Nat.ofDigitChars_toDigits (by decide) (by decide),
    Nat.ofDigitChars_toDigits (by decide) (by decide)] at numbers
  exact ⟨numbers, rests⟩

theorem repr_append_inj {n n' : Nat}
    (same : n.repr.toList ++ rest = n'.repr.toList ++ rest') : n = n' ∧ rest = rest' := by
  rw [Nat.toList_repr, Nat.toList_repr] at same
  exact toDigits_append_inj stops stops' same

theorem int_repr_append_inj {i i' : Int}
    (same : i.repr.toList ++ rest = i'.repr.toList ++ rest') : i = i' ∧ rest = rest' := by
  have unsigned (n : Nat) (text others : List Char) :
      ¬n.repr.toList ++ text = '-' :: others := by
    intro minus
    obtain ⟨first, digits, shape, digit⟩ := exists_repr_eq_cons n
    rw [shape, List.cons_append] at minus
    cases minus
    exact absurd digit (by decide)
  rw [Int.repr_eq_if, Int.repr_eq_if] at same
  by_cases positive : 0 ≤ i <;> by_cases positive' : 0 ≤ i'
  · rw [if_pos positive, if_pos positive'] at same
    obtain ⟨numbers, rests⟩ := repr_append_inj stops stops' same
    exact ⟨by omega, rests⟩
  · rw [if_pos positive, if_neg positive', String.toList_append] at same
    exact absurd same (unsigned _ _ _)
  · rw [if_neg positive, if_pos positive', String.toList_append] at same
    exact absurd same.symm (unsigned _ _ _)
  · rw [if_neg positive, if_neg positive', String.toList_append, String.toList_append] at same
    obtain ⟨numbers, rests⟩ := repr_append_inj stops stops' (List.cons.inj same).2
    exact ⟨by omega, rests⟩

end Decimal

/-! ### Hexadecimal numbers -/

theorem hexDigit?_digitChar {d : Nat} (single : d < 16) : hexDigit? d.digitChar = some d := by
  revert d
  decide

theorem hexNumber?_append_singleton {front : List Char} {n d : Nat}
    (number : hexNumber? front = some n) (single : d < 16) :
    hexNumber? (front ++ [d.digitChar]) = some (16 * n + d) := by
  unfold hexNumber? at number ⊢
  rw [List.foldlM_append, number]
  simp [hexDigit?_digitChar single]

theorem hexNumber?_toDigits (n : Nat) : hexNumber? (Nat.toDigits 16 n) = some n := by
  -- The digits of a number are those of its sixteenth part and one more.
  induction n using Nat.strongRecOn with
  | ind n ih =>
      rw [Nat.toDigits_eq_if (by decide)]
      by_cases single : n < 16
      · rw [if_pos single]
        have read : hexNumber? ([] ++ [n.digitChar]) = some (16 * 0 + n) :=
          hexNumber?_append_singleton rfl single
        rwa [Nat.mul_zero, Nat.zero_add] at read
      · rw [if_neg single, hexNumber?_append_singleton (ih (n / 16) (by omega)) (by omega),
          Nat.div_add_mod]

theorem hexNumber?_hexadecimal (n : Nat) : hexNumber? (hexadecimal n).toList = some n := by
  rw [hexadecimal, String.toList_ofList]
  exact hexNumber?_toDigits n

theorem isSome_hexDigit?_of_mem {n : Nat} {c : Char} (member : c ∈ Nat.toDigits 16 n) :
    (hexDigit? c).isSome = true := by
  induction n using Nat.strongRecOn with
  | ind n ih =>
      rw [Nat.toDigits_eq_if (by decide)] at member
      split at member
      · rename_i single
        rw [List.mem_singleton.mp member, hexDigit?_digitChar single]
        rfl
      · rcases List.mem_append.mp member with inside | last
        · exact ih (n / 16) (by omega) inside
        · rw [List.mem_singleton.mp last, hexDigit?_digitChar (by omega)]
          rfl

theorem hexadecimal_append_inj {n n' : Nat} {rest rest' : List Char}
    (stops : ∀ c ∈ rest.head?, (hexDigit? c).isSome = false)
    (stops' : ∀ c ∈ rest'.head?, (hexDigit? c).isSome = false)
    (same : (hexadecimal n).toList ++ rest = (hexadecimal n').toList ++ rest') :
    n = n' ∧ rest = rest' := by
  have digits (number : Nat) :
      ∀ c ∈ (hexadecimal number).toList, (hexDigit? c).isSome = true := by
    rw [hexadecimal, String.toList_ofList]
    exact fun c member => isSome_hexDigit?_of_mem member
  obtain ⟨fronts, rests⟩ := span_inj (digits n) (digits n') stops stops' same
  have numbers := congrArg hexNumber? fronts
  rw [hexNumber?_hexadecimal, hexNumber?_hexadecimal] at numbers
  exact ⟨Option.some.inj numbers, rests⟩

end SessionProbe.Text
