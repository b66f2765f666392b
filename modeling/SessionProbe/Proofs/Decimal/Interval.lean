import Mathlib.Algebra.Order.Field.Rat
import Mathlib.Tactic.FieldSimp
import Mathlib.Tactic.Linarith
import Mathlib.Tactic.NormNum
import Mathlib.Tactic.Positivity
import Mathlib.Tactic.Ring
import SessionProbe.Decimal.Shortest

set_option autoImplicit false

/-!
The rationals behind exact comparisons. `powerOfTen` and `floorLog10` are a power and a logarithm
of rationals, and an interval around a double is a convex set of them; `roundingInterval_narrow`
tells how wide it is.
-/

namespace SessionProbe.Decimal

/-! ### Powers of ten -/

theorem powerOfTen_pos (e : Int) : 0 < (powerOfTen e).1 ∧ 0 < (powerOfTen e).2 := by
  unfold powerOfTen
  split
  · exact ⟨Nat.pow_pos (by decide), Nat.one_pos⟩
  · exact ⟨Nat.one_pos, Nat.pow_pos (by decide)⟩

theorem powerOfTen_ratio (e : Int) :
    ((powerOfTen e).1 : ℚ) / ((powerOfTen e).2 : ℚ) = (10 : ℚ) ^ e := by
  unfold powerOfTen
  split
  · rename_i nonneg
    obtain ⟨n, rfl⟩ := Int.eq_ofNat_of_zero_le nonneg
    simp
  · rename_i negative
    obtain ⟨n, rfl⟩ : ∃ n : Nat, e = -n := ⟨(-e).toNat, by omega⟩
    simp

theorem exists_digitCount {n : Nat} (positive : 0 < n) :
    ∃ places, digitCount n = places + 1 ∧ 10 ^ places ≤ n ∧ n < 10 ^ (places + 1) := by
  obtain ⟨places, count⟩ : ∃ places, digitCount n = places + 1 :=
    ⟨_, (Nat.succ_pred_eq_of_pos Nat.length_toDigits_pos).symm⟩
  unfold digitCount at count
  refine ⟨places, count, ?_, ?_⟩
  · by_contra below
    rw [Nat.not_le] at below
    rcases Nat.eq_zero_or_pos places with rfl | several
    · omega
    · have shorter := (Nat.length_toDigits_le_iff (by decide) several).mpr below
      omega
  · exact (Nat.length_toDigits_le_iff (by decide) (Nat.succ_pos _)).mp (Nat.le_of_eq count)

/-- The greatest power of ten that is at most a quotient, and the next one, which exceeds it. -/
theorem floorLog10_bounds {numerator denominator : Nat} (top : 0 < numerator)
    (bottom : 0 < denominator) :
    (10 : ℚ) ^ floorLog10 numerator denominator ≤ numerator / denominator ∧
      (numerator : ℚ) / denominator < (10 : ℚ) ^ (floorLog10 numerator denominator + 1) := by
  have bottom' : (0 : ℚ) < denominator := by exact_mod_cast bottom
  unfold floorLog10
  split
  · rename_i whole
    -- From one on, the digits of the whole part are counted.
    have positive : 0 < numerator / denominator := Nat.div_pos whole bottom
    obtain ⟨places, count, low, high⟩ := exists_digitCount positive
    rw [count]
    have exponent : ((places + 1 : Nat) : Int) - 1 = (places : Int) := by omega
    have next : (places : Int) + 1 = ((places + 1 : Nat) : Int) := by omega
    rw [exponent, next, zpow_natCast, zpow_natCast, le_div_iff₀ bottom', div_lt_iff₀ bottom']
    constructor
    · have below : 10 ^ places * denominator ≤ numerator :=
        Nat.le_trans (Nat.mul_le_mul_right _ low) (Nat.div_mul_le_self _ _)
      exact_mod_cast below
    · have above : numerator < 10 ^ (places + 1) * denominator :=
        (Nat.div_lt_iff_lt_mul bottom).mp high
      exact_mod_cast above
  · rename_i part
    -- Below one, those of the inverse are.
    have positive : 0 < (denominator - 1) / numerator := Nat.div_pos (by omega) top
    obtain ⟨places, count, low, high⟩ := exists_digitCount positive
    rw [count]
    have next : -((places + 1 : Nat) : Int) + 1 = -(places : Int) := by omega
    rw [next, zpow_neg, zpow_neg, zpow_natCast, zpow_natCast, le_div_iff₀ bottom',
      div_lt_iff₀ bottom', inv_mul_le_iff₀ (by positivity), lt_inv_mul_iff₀ (by positivity)]
    constructor
    · have below : denominator ≤ 10 ^ (places + 1) * numerator := by
        have inverse := (Nat.div_lt_iff_lt_mul top).mp high
        omega
      exact_mod_cast below
    · have above : 10 ^ places * numerator < denominator := by
        have inverse := (Nat.le_div_iff_mul_le top).mp low
        omega
      exact_mod_cast above

/-! ### Intervals -/

def Interval.Holds (i : Interval) (q : ℚ) : Prop :=
  if i.closed then (i.low : ℚ) / i.unit ≤ q ∧ q ≤ (i.high : ℚ) / i.unit
  else (i.low : ℚ) / i.unit < q ∧ q < (i.high : ℚ) / i.unit

section Intervals

variable {i : Interval} {p q r : ℚ}

theorem Interval.contains_iff (unit : 0 < i.unit) (numerator : Nat) {denominator : Nat}
    (bottom : 0 < denominator) :
    i.contains numerator denominator = true ↔ i.Holds ((numerator : ℚ) / denominator) := by
  have unit' : (0 : ℚ) < i.unit := by exact_mod_cast unit
  have bottom' : (0 : ℚ) < denominator := by exact_mod_cast bottom
  unfold Interval.contains Interval.Holds
  cases i.closed with
  | true =>
      simp only [if_true, Bool.and_eq_true, decide_eq_true_eq, div_le_div_iff₀ unit' bottom',
        div_le_div_iff₀ bottom' unit']
      norm_cast
  | false =>
      simp only [Bool.false_eq_true, if_false, Bool.and_eq_true, decide_eq_true_eq,
        div_lt_div_iff₀ unit' bottom', div_lt_div_iff₀ bottom' unit']
      norm_cast

theorem Interval.Holds.bounds (inside : i.Holds q) :
    (i.low : ℚ) / i.unit ≤ q ∧ q ≤ (i.high : ℚ) / i.unit := by
  unfold Interval.Holds at inside
  split at inside
  · exact inside
  · exact ⟨le_of_lt inside.1, le_of_lt inside.2⟩

theorem Interval.Holds.between (left : i.Holds p) (right : i.Holds r) (above : p ≤ q)
    (below : q ≤ r) : i.Holds q := by
  cases closed : i.closed with
  | true =>
      simp only [Interval.Holds, closed, if_true] at left right ⊢
      exact ⟨le_trans left.1 above, le_trans below right.2⟩
  | false =>
      simp only [Interval.Holds, closed, Bool.false_eq_true, if_false] at left right ⊢
      exact ⟨lt_of_lt_of_le left.1 above, lt_of_le_of_lt below right.2⟩

end Intervals

/-! ### The interval of a double -/

section Doubles

variable {x : Binary64}

theorem significand_pos (nonzero : x.magnitude ≠ 0) : 0 < x.significand := by
  unfold Binary64.significand
  split
  · exact Nat.pos_of_ne_zero nonzero
  · exact Nat.add_pos_left (Nat.pow_pos (by decide)) _

theorem powerOfTwo_pos (e : Int) :
    0 < (Binary64.powerOfTwo e).1 ∧ 0 < (Binary64.powerOfTwo e).2 := by
  unfold Binary64.powerOfTwo
  split
  · exact ⟨Nat.pow_pos (by decide), Nat.one_pos⟩
  · exact ⟨Nat.one_pos, Nat.pow_pos (by decide)⟩

theorem roundingInterval_unit_pos (x : Binary64) : 0 < x.roundingInterval.unit :=
  Nat.mul_pos (by decide) (powerOfTwo_pos x.scale).2

theorem roundingInterval_value_pos (nonzero : x.magnitude ≠ 0) :
    0 < x.roundingInterval.value :=
  Nat.mul_pos (Nat.mul_pos (by decide) (significand_pos nonzero)) (powerOfTwo_pos x.scale).1

theorem roundingInterval_holds_value (nonzero : x.magnitude ≠ 0) :
    x.roundingInterval.Holds
      ((x.roundingInterval.value : ℚ) / x.roundingInterval.unit) := by
  have spacing := (powerOfTwo_pos x.scale).1
  have value := roundingInterval_value_pos nonzero
  have low : x.roundingInterval.low < x.roundingInterval.value := by
    unfold Binary64.roundingInterval at value ⊢
    dsimp only at value ⊢
    split <;> omega
  have high : x.roundingInterval.value < x.roundingInterval.high := by
    unfold Binary64.roundingInterval
    dsimp only
    omega
  have unit : (0 : ℚ) < x.roundingInterval.unit := by
    exact_mod_cast roundingInterval_unit_pos x
  have low' : (x.roundingInterval.low : ℚ) / x.roundingInterval.unit <
      (x.roundingInterval.value : ℚ) / x.roundingInterval.unit := by
    rw [div_lt_div_iff_of_pos_right unit]
    exact_mod_cast low
  have high' : (x.roundingInterval.value : ℚ) / x.roundingInterval.unit <
      (x.roundingInterval.high : ℚ) / x.roundingInterval.unit := by
    rw [div_lt_div_iff_of_pos_right unit]
    exact_mod_cast high
  unfold Interval.Holds
  split
  · exact ⟨le_of_lt low', le_of_lt high'⟩
  · exact ⟨low', high'⟩

/-- The ends of an interval are less than a ninth apart, except where doubles are tiny. -/
theorem roundingInterval_narrow (x : Binary64) :
    9 * x.roundingInterval.high < 10 * x.roundingInterval.low ∨
      10 ^ 5 * x.roundingInterval.high < x.roundingInterval.unit := by
  by_cases tiny : x.magnitude < Nat.pow 2 52
  · right
    have scale : x.scale = -1074 := if_pos tiny
    have significand : x.significand = x.magnitude := if_pos tiny
    unfold Binary64.roundingInterval
    rw [scale, significand]
    obtain ⟨places, many, spacing⟩ : ∃ places, 100 ≤ places ∧
        Binary64.powerOfTwo (-1074) = (1, Nat.pow 2 places) := 
      ⟨(-(-1074) : Int).toNat, by decide, if_neg (by decide)⟩
    rw [spacing]
    dsimp only
    have far : Nat.pow 2 100 ≤ Nat.pow 2 places := Nat.pow_le_pow_right (by decide) many
    have bound : 10 ^ 5 * (4 * Nat.pow 2 52 + 2) < 4 * Nat.pow 2 100 := by decide
    omega
  · left
    have significand : Nat.pow 2 52 ≤ x.significand := by
      unfold Binary64.significand
      rw [if_neg tiny]
      exact Nat.le_add_right _ _
    have large : 10 ≤ x.significand := Nat.le_trans (by decide) significand
    have positive := (powerOfTwo_pos x.scale).1
    unfold Binary64.roundingInterval
    dsimp only
    generalize (Binary64.powerOfTwo x.scale).1 = spacing at positive ⊢
    have product : 10 * spacing ≤ x.significand * spacing := Nat.mul_le_mul_right _ large
    rw [Nat.mul_assoc]
    generalize x.significand * spacing = value at *
    split <;> omega

end Doubles

end SessionProbe.Decimal
