import SessionProbe.Proofs.Decimal.SingleDigit
import SessionProbe.Wire.Rendering

set_option autoImplicit false

/-!
The texts of doubles. Alone or in variants, a finite double is written with a decimal point unless
its text has a single digit and an exponent.
-/

namespace SessionProbe

namespace Decimal

theorem point_not_mem_toDigits (n : Nat) : '.' ∉ Nat.toDigits 10 n := by
  intro point
  exact absurd (Nat.isDigit_of_mem_toDigits (by decide) (by decide) point) (by decide)

theorem point_not_mem_repr (place : Int) : '.' ∉ place.repr.toList := by
  rw [Int.repr_eq_if]
  split
  · rw [Nat.toList_repr]
    exact point_not_mem_toDigits _
  · rw [String.toList_append, Nat.toList_repr, List.mem_append]
    rintro (sign | digits)
    · exact absurd sign (by decide)
    · exact point_not_mem_toDigits _ digits

theorem point_mem_positional {wholeEnd : String} (ends : '.' ∈ wholeEnd.toList)
    (digits : List Char) (place : Int) : '.' ∈ (positional wholeEnd digits place).toList := by
  unfold positional
  split
  · simp
  · split
    · rw [String.toList_append, List.mem_append]
      exact Or.inr ends
    · simp

theorem point_mem_scientific_iff {plus : String} (plain : '.' ∉ plus.toList) {digits : List Char}
    (clean : '.' ∉ digits) (place : Int) :
    '.' ∈ (scientific plus digits place).toList ↔ 2 ≤ digits.length := by
  have inExponent := point_not_mem_repr place
  unfold scientific
  cases digits with
  | nil => by_cases sign : 0 ≤ place <;> simp [sign, plain, inExponent]
  | cons first rest =>
      have front : '.' ≠ first := fun same => clean (same ▸ List.mem_cons_self)
      cases rest with
      | nil => by_cases sign : 0 ≤ place <;> simp [sign, plain, inExponent, front]
      | cons second others => simp

end Decimal

namespace Wire

open Decimal

/-- Without its sign, a double is written without a point if it has one digit that counts less than
`1e-4` or more than `1e15`. -/
theorem point_mem_digits_iff (d : Digits) :
    '.' ∈ (bareDouble.digits d).toList ↔
      10 ≤ d.digits ∨ -4 ≤ d.exponent ∧ d.exponent ≤ 15 := by
  have plain : '.' ∉ bareDouble.plus.toList := by decide
  have clean := point_not_mem_toDigits d.digits
  have scientific_iff := point_mem_scientific_iff plain clean
    (d.exponent + (Nat.toDigits 10 d.digits).length - 1)
  unfold Layout.digits
  dsimp only
  rcases Nat.lt_or_ge d.digits 10 with single | several
  · rw [Nat.toDigits_of_lt_base single] at scientific_iff ⊢
    have place : d.exponent + ([d.digits.digitChar].length : Nat) - 1 = d.exponent := by
      rw [List.length_singleton]
      omega
    rw [place] at scientific_iff ⊢
    by_cases small : -4 ≤ d.exponent ∧ d.exponent ≤ 15
    · have positional : bareDouble.isPositional d.exponent = true := by
        simpa [bareDouble] using small
      rw [if_pos positional]
      exact iff_of_true (point_mem_positional (by decide) _ _) (Or.inr small)
    · have scientific : ¬bareDouble.isPositional d.exponent = true := by
        simpa [bareDouble] using small
      rw [if_neg scientific, scientific_iff, List.length_singleton]
      exact iff_of_false (by decide) (by omega)
  · have long : 2 ≤ (Nat.toDigits 10 d.digits).length := by
      by_contra short
      have bound := (Nat.length_toDigits_le_iff (b := 10) (n := d.digits) (by decide)
        Nat.one_pos).mp (by omega)
      omega
    refine iff_of_true ?_ (Or.inl several)
    split
    · exact point_mem_positional (by decide) _ _
    · exact scientific_iff.mpr long

theorem point_mem_text_iff {x : Binary64} (finite : x.isFinite = true) :
    '.' ∈ (bareDouble.text x).toList ↔
      x.magnitude = 0 ∨ '.' ∈ (bareDouble.digits (x.shortest bareDouble.tie)).toList := by
  have bound : x.magnitude < Binary64.infinityMagnitude := of_decide_eq_true finite
  have number : x.isNaN = false := decide_eq_false (by omega)
  have bounded : x.isInfinite = false := by
    rw [Binary64.isInfinite, beq_eq_false_iff_ne]
    omega
  have sign : '.' ∉ (if x.isNegative then "-" else "").toList := by split <;> decide
  unfold Layout.text
  rw [number, bounded, if_neg Bool.false_ne_true, if_neg Bool.false_ne_true,
    String.toList_append, List.mem_append, or_iff_right sign]
  split
  · rename_i zero
    exact iff_of_true (by decide) (Or.inl zero)
  · rename_i nonzero
    simp only [nonzero, false_or]

def wrappedDouble (x : Binary64) : (layers : Nat) → Value
  | 0 => .scalar (.double x)
  | layers + 1 => .variant (wrappedDouble x layers)

theorem render_wrappedDouble (x : Binary64) (layers : Nat) :
    (wrappedDouble x layers).render = bareDouble.text x := by
  induction layers with
  | zero => rfl
  | succ layers ih => exact ih

/-- Alone or inside any number of variants, the text of a finite double has a decimal point, unless
a decimal of one digit below `1e-4` or from `1e16` on rounds to its absolute value. -/
theorem point_mem_render_iff {x : Binary64} (finite : x.isFinite = true) (layers : Nat) :
    '.' ∈ (wrappedDouble x layers).render.toList ↔
      x.magnitude = 0 ∨
        ¬∃ digit place, 1 ≤ digit ∧ digit ≤ 9 ∧ (place < -4 ∨ 15 < place) ∧
          x.IsRoundedFrom digit place := by
  rw [render_wrappedDouble, point_mem_text_iff finite, point_mem_digits_iff]
  refine or_congr_right' fun nonzero => ?_
  constructor
  · rintro written ⟨digit, place, some, single, outside, rounded⟩
    obtain ⟨_, short, same⟩ :=
      @Binary64.shortest_single _ bareDouble.tie nonzero _ _ single rounded
    obtain ⟨low, high⟩ := written.resolve_left (by omega)
    rcases outside with below | above
    · have side := Binary64.same_side (-4) rounded same single (by omega) (by decide) below
      omega
    · have side := Binary64.same_side 16 same rounded (by omega) some (by decide)
        (by omega)
      omega
  · intro none
    by_contra unwritten
    rcases @Binary64.shortest_rounded _ bareDouble.tie nonzero with zero | ⟨some, same⟩
    · rw [zero] at unwritten
      exact unwritten (Or.inr ⟨by decide, by decide⟩)
    · rw [not_or] at unwritten
      exact none ⟨_, _, some, by omega, by omega, same⟩

/-- `2.5` is written with its point in two variants as well, so no single digit rounds to it. -/
theorem twoAndAHalf_pointed :
    (⟨0x4004000000000000⟩ : Binary64).isFinite = true ∧
      '.' ∈ (wrappedDouble ⟨0x4004000000000000⟩ 2).render.toList ∧
      ¬∃ digit place, 1 ≤ digit ∧ digit ≤ 9 ∧ (place < -4 ∨ 15 < place) ∧
        (⟨0x4004000000000000⟩ : Binary64).IsRoundedFrom digit place := by
  have finite : (⟨0x4004000000000000⟩ : Binary64).isFinite = true := by decide
  have pointed : '.' ∈ (wrappedDouble ⟨0x4004000000000000⟩ 2).render.toList := by
    decide +kernel
  refine ⟨finite, pointed, ?_⟩
  exact ((point_mem_render_iff finite 2).mp pointed).resolve_left (by decide)

/-- The double `10 ^ 16` is written `1e16`. -/
theorem tenQuadrillion_pointless :
    ¬∀ (x : Binary64) (layers : Nat), x.isFinite = true →
      '.' ∈ (wrappedDouble x layers).render.toList := by
  intro always
  have written : (wrappedDouble ⟨0x4341C37937E08000⟩ 0).render = "1e16" := by decide +kernel
  have pointed := always ⟨0x4341C37937E08000⟩ 0 (by decide)
  rw [written] at pointed
  exact absurd pointed (by decide)

end Wire

end SessionProbe
