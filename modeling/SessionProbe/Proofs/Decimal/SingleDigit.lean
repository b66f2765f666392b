import SessionProbe.Proofs.Decimal.Interval

set_option autoImplicit false

/-!
Doubles that are written with a single digit. The shortest decimal of a double has one digit just
when a decimal of one digit rounds to it; and all decimals of one digit that round to a double are
within a ninth of each other, so that they lie on one side of each power of ten.
-/

namespace SessionProbe.Decimal

def Digits.value (d : Digits) : ℚ :=
  d.digits * (10 : ℚ) ^ d.exponent

def Binary64.IsRoundedFrom (x : Binary64) (digits : Nat) (exponent : Int) : Prop :=
  x.roundingInterval.Holds (digits * (10 : ℚ) ^ exponent)

theorem zpow_ten_pos (e : Int) : (0 : ℚ) < (10 : ℚ) ^ e :=
  zpow_pos (by norm_num) e

/-! ### The nearest point of a grid -/

section Grid

variable {i : Interval} {tie : Tie} {e : Int}

/-- The value of an interval in units of a grid, rounded down. -/
def Interval.below (i : Interval) (e : Int) : Nat :=
  i.value * (powerOfTen e).2 / ((powerOfTen e).1 * i.unit)

theorem Interval.below_bounds (unit : 0 < i.unit) (e : Int) :
    (i.below e : ℚ) * (10 : ℚ) ^ e ≤ (i.value : ℚ) / i.unit ∧
      (i.value : ℚ) / i.unit < ((i.below e : ℚ) + 1) * (10 : ℚ) ^ e := by
  obtain ⟨power, part⟩ := powerOfTen_pos e
  have product : 0 < (powerOfTen e).1 * i.unit := Nat.mul_pos power unit
  have part' : (0 : ℚ) < (powerOfTen e).2 := by exact_mod_cast part
  have unit' : (0 : ℚ) < i.unit := by exact_mod_cast unit
  rw [← powerOfTen_ratio, ← mul_div_assoc, ← mul_div_assoc, div_le_div_iff₀ part' unit',
    div_lt_div_iff₀ unit' part']
  have lower : i.below e * ((powerOfTen e).1 * i.unit) ≤ i.value * (powerOfTen e).2 :=
    Nat.div_mul_le_self _ _
  have upper : i.value * (powerOfTen e).2 < (i.below e + 1) * ((powerOfTen e).1 * i.unit) :=
    Nat.lt_mul_of_div_lt (Nat.lt_succ_self _) product
  constructor
  · rw [mul_assoc]
    exact_mod_cast lower
  · rw [mul_assoc ((i.below e : ℚ) + 1)]
    exact_mod_cast upper

theorem Interval.fits_iff (unit : 0 < i.unit) (n : Nat) (e : Int) :
    i.contains (n * (powerOfTen e).1) (powerOfTen e).2 = true ↔
      i.Holds ((n : ℚ) * (10 : ℚ) ^ e) := by
  rw [Interval.contains_iff unit _ (powerOfTen_pos e).2, ← powerOfTen_ratio, Nat.cast_mul,
    mul_div_assoc]

/-- What is found on a grid is one of the two neighbours of the value, and lies in the interval. -/
theorem Interval.nearest?_eq_some (unit : 0 < i.unit) {d : Digits}
    (found : i.nearest? tie e = some d) :
    d.exponent = e ∧ (d.digits = i.below e ∨ d.digits = i.below e + 1) ∧ i.Holds d.value := by
  unfold Interval.nearest? at found
  dsimp only at found
  split at found
  · rename_i fits
    cases found
    rw [Bool.and_eq_true] at fits
    exact ⟨rfl, Or.inl rfl, (Interval.fits_iff unit _ e).mp fits.1⟩
  · split at found
    · rename_i fits
      cases found
      exact ⟨rfl, Or.inr rfl, (Interval.fits_iff unit _ e).mp fits⟩
    · cases found

theorem Interval.nearest?_isSome (unit : 0 < i.unit)
    (fits : i.Holds ((i.below e : Nat) * (10 : ℚ) ^ e) ∨
      i.Holds (((i.below e + 1 : Nat) : ℚ) * (10 : ℚ) ^ e)) :
    ∃ d, i.nearest? tie e = some d := by
  rw [← Interval.fits_iff unit, ← Interval.fits_iff unit] at fits
  unfold Interval.nearest?
  dsimp only
  rw [Interval.below] at fits
  split
  · exact ⟨_, rfl⟩
  · split
    · exact ⟨_, rfl⟩
    · rename_i notLower notUpper
      rw [Bool.not_eq_true] at notUpper
      rcases fits with lower | upper
      · rw [lower, notUpper] at notLower
        simp at notLower
      · rw [upper] at notUpper
        cases notUpper

/-- If a point of the grid lies in the interval, so does a neighbour of the value. -/
theorem Interval.neighbour_holds (unit : 0 < i.unit)
    (inside : i.Holds ((i.value : ℚ) / i.unit)) {m : Nat} (point : i.Holds ((m : ℚ) * (10 : ℚ) ^ e)) :
    i.Holds ((i.below e : Nat) * (10 : ℚ) ^ e) ∨
      i.Holds (((i.below e + 1 : Nat) : ℚ) * (10 : ℚ) ^ e) := by
  obtain ⟨lower, upper⟩ := Interval.below_bounds unit e
  have step := le_of_lt (zpow_ten_pos e)
  rcases Nat.lt_or_ge (i.below e) m with above | notAbove
  · right
    refine inside.between point (by push_cast; linarith) ?_
    exact mul_le_mul_of_nonneg_right (by exact_mod_cast above) step
  · left
    refine point.between inside ?_ lower
    exact mul_le_mul_of_nonneg_right (by exact_mod_cast notAbove) step

end Grid

/-! ### The shortest decimal -/

theorem Digits.trimmed_value (d : Digits) : d.trimmed.value = d.value := by
  unfold Digits.trimmed
  split
  · rename_i whole
    obtain ⟨n, tens⟩ := Nat.dvd_of_mod_eq_zero whole
    unfold Digits.value
    dsimp only
    rw [tens, Nat.mul_div_cancel_left n (by decide), zpow_add₀ (by norm_num)]
    push_cast
    ring
  · rfl

theorem Digits.trimmed_pos {d : Digits} (some : 0 < d.digits) : 0 < d.trimmed.digits := by
  unfold Digits.trimmed
  split
  · change 0 < d.digits / 10
    omega
  · exact some

theorem Digits.trimmed_lt {d : Digits} (few : d.digits ≤ 10) : d.trimmed.digits < 10 := by
  unfold Digits.trimmed
  split
  · change d.digits / 10 < 10
    omega
  · omega

section Shortest

variable {x : Binary64} {tie : Tie}

def Binary64.top (x : Binary64) : Int :=
  floorLog10 x.roundingInterval.value x.roundingInterval.unit

def Binary64.found (x : Binary64) (tie : Tie) : Option Digits :=
  (List.range 17).findSome? fun (count : Nat) => x.roundingInterval.nearest? tie (x.top - count)

theorem Binary64.shortest_eq (x : Binary64) (tie : Tie) :
    x.shortest tie = ((x.found tie).getD ⟨0, 0⟩).trimmed := rfl

theorem Binary64.top_bounds (nonzero : x.magnitude ≠ 0) :
    (10 : ℚ) ^ x.top ≤ (x.roundingInterval.value : ℚ) / x.roundingInterval.unit ∧
      (x.roundingInterval.value : ℚ) / x.roundingInterval.unit < (10 : ℚ) ^ (x.top + 1) :=
  floorLog10_bounds (roundingInterval_value_pos nonzero) (roundingInterval_unit_pos x)

theorem Binary64.below_pos (nonzero : x.magnitude ≠ 0) {e : Int} (fine : e ≤ x.top) :
    0 < x.roundingInterval.below e := by
  have upper := (Interval.below_bounds (roundingInterval_unit_pos x) e).2
  have lower := (Binary64.top_bounds nonzero).1
  have steps : (10 : ℚ) ^ e ≤ (10 : ℚ) ^ x.top := zpow_le_zpow_right₀ (by norm_num) fine
  have positive := zpow_ten_pos e
  by_contra none
  rw [Nat.eq_zero_of_not_pos none] at upper
  push_cast at upper
  linarith

theorem Binary64.of_found (nonzero : x.magnitude ≠ 0) {d : Digits} (found : x.found tie = some d) :
    0 < d.trimmed.digits ∧ x.IsRoundedFrom d.trimmed.digits d.trimmed.exponent := by
  obtain ⟨count, _, here⟩ := List.exists_of_findSome?_eq_some found
  obtain ⟨_, neighbour, holds⟩ :=
    Interval.nearest?_eq_some (roundingInterval_unit_pos x) here
  have positive := Binary64.below_pos nonzero (show x.top - (count : Int) ≤ x.top by omega)
  refine ⟨Digits.trimmed_pos (by omega), ?_⟩
  change x.roundingInterval.Holds d.trimmed.value
  rw [d.trimmed_value]
  exact holds

theorem Binary64.below_top_bounds (nonzero : x.magnitude ≠ 0) :
    1 ≤ x.roundingInterval.below x.top ∧ x.roundingInterval.below x.top ≤ 9 := by
  refine ⟨Binary64.below_pos nonzero (le_refl x.top), ?_⟩
  have lower := (Interval.below_bounds (roundingInterval_unit_pos x) x.top).1
  have high := (Binary64.top_bounds nonzero).2
  rw [zpow_add₀ (by norm_num), zpow_one] at high
  by_contra many
  have ten : (10 : ℚ) ≤ x.roundingInterval.below x.top := by
    exact_mod_cast Nat.lt_of_not_le many
  have := mul_le_mul_of_nonneg_right ten (le_of_lt (zpow_ten_pos x.top))
  linarith

/-- A decimal of one digit that rounds to a double leaves a neighbour of the double on the coarsest
grid. -/
theorem Binary64.neighbour_of_single (nonzero : x.magnitude ≠ 0) {digit : Nat} {place : Int}
    (single : digit ≤ 9) (rounded : x.IsRoundedFrom digit place) :
    x.roundingInterval.Holds ((x.roundingInterval.below x.top : Nat) * (10 : ℚ) ^ x.top) ∨
      x.roundingInterval.Holds
        (((x.roundingInterval.below x.top + 1 : Nat) : ℚ) * (10 : ℚ) ^ x.top) := by
  have unit := roundingInterval_unit_pos x
  have inside := roundingInterval_holds_value nonzero
  unfold Binary64.IsRoundedFrom at rounded
  by_cases fine : place < x.top
  · -- A decimal of one digit below the coarsest grid is less than its first point.
    left
    refine rounded.between inside ?_ (Interval.below_bounds unit x.top).1
    have first : (1 : ℚ) ≤ x.roundingInterval.below x.top := by
      exact_mod_cast (Binary64.below_top_bounds nonzero).1
    have behind := mul_le_mul_of_nonneg_right first (le_of_lt (zpow_ten_pos x.top))
    have nine : (digit : ℚ) ≤ 9 := by exact_mod_cast single
    have small := mul_le_mul_of_nonneg_right nine (le_of_lt (zpow_ten_pos place))
    have finer : (10 : ℚ) ^ place * 10 ≤ 10 ^ x.top := by
      rw [← zpow_add_one₀ (by norm_num)]
      exact zpow_le_zpow_right₀ (by norm_num) fine
    have := zpow_ten_pos place
    linarith
  · -- Otherwise it is a point of this grid.
    obtain ⟨n, rfl⟩ : ∃ n : Nat, place = x.top + n := ⟨(place - x.top).toNat, by omega⟩
    have point : (digit : ℚ) * (10 : ℚ) ^ (x.top + n) =
        ((digit * 10 ^ n : Nat) : ℚ) * (10 : ℚ) ^ x.top := by
      rw [zpow_add₀ (by norm_num), zpow_natCast]
      push_cast
      ring
    rw [point] at rounded
    exact Interval.neighbour_holds unit inside rounded

theorem Binary64.found_of_single (nonzero : x.magnitude ≠ 0) {digit : Nat} {place : Int}
    (single : digit ≤ 9) (rounded : x.IsRoundedFrom digit place) :
    ∃ d, x.found tie = some d ∧ d.digits ≤ 10 := by
  have unit := roundingInterval_unit_pos x
  obtain ⟨d, here⟩ :=
    @Interval.nearest?_isSome _ tie _ unit (Binary64.neighbour_of_single nonzero single rounded)
  have first : x.roundingInterval.nearest? tie (x.top - (0 : Nat)) = some d := by
    rw [Nat.cast_zero, Int.sub_zero]
    exact here
  refine ⟨d, ?_, ?_⟩
  · unfold Binary64.found
    rw [List.range_succ_eq_map, List.findSome?_cons, first]
  · have few := (Binary64.below_top_bounds nonzero).2
    obtain ⟨_, neighbour, _⟩ := Interval.nearest?_eq_some unit here
    omega

theorem Binary64.shortest_single (nonzero : x.magnitude ≠ 0) {digit : Nat} {place : Int}
    (single : digit ≤ 9) (rounded : x.IsRoundedFrom digit place) :
    0 < (x.shortest tie).digits ∧ (x.shortest tie).digits < 10 ∧
      x.IsRoundedFrom (x.shortest tie).digits (x.shortest tie).exponent := by
  obtain ⟨d, found, few⟩ := @Binary64.found_of_single _ tie nonzero _ _ single rounded
  obtain ⟨some, same⟩ := Binary64.of_found nonzero found
  rw [Binary64.shortest_eq, found, Option.getD_some]
  exact ⟨some, Digits.trimmed_lt few, same⟩

/-- The shortest decimal rounds to the double, unless none was found. -/
theorem Binary64.shortest_rounded (nonzero : x.magnitude ≠ 0) :
    x.shortest tie = ⟨0, 1⟩ ∨
      0 < (x.shortest tie).digits ∧
        x.IsRoundedFrom (x.shortest tie).digits (x.shortest tie).exponent := by
  rw [Binary64.shortest_eq]
  cases found : x.found tie with
  | none => exact Or.inl rfl
  | some d => exact Or.inr (Binary64.of_found nonzero found)

end Shortest

/-! ### One side of each power of ten -/

/-- Decimals of one digit that round to one double are on one side of a power of ten that is none of
the least. -/
theorem Binary64.same_side {x : Binary64} {digit other : Nat} {place place' : Int} (bound : Int)
    (first : x.IsRoundedFrom digit place) (second : x.IsRoundedFrom other place')
    (single : digit ≤ 9) (some : 1 ≤ other) (large : -5 ≤ bound) (low : place < bound) :
    place' < bound := by
  by_contra high
  have nine : (digit : ℚ) ≤ 9 := by exact_mod_cast single
  have one : (1 : ℚ) ≤ other := by exact_mod_cast some
  have unit : (0 : ℚ) < x.roundingInterval.unit := by exact_mod_cast roundingInterval_unit_pos x
  have lower := (div_le_iff₀ unit).mp first.bounds.1
  have upper := (le_div_iff₀ unit).mp second.bounds.2
  have step := zpow_ten_pos bound
  -- The first decimal is at most nine tenths of the power and the second one at least all of it.
  have below : (digit : ℚ) * 10 ^ place ≤ 9 / 10 * 10 ^ bound := by
    have finer : (10 : ℚ) ^ place * 10 ≤ 10 ^ bound := by
      rw [← zpow_add_one₀ (by norm_num)]
      exact zpow_le_zpow_right₀ (by norm_num) low
    have small := mul_le_mul_of_nonneg_right nine (le_of_lt (zpow_ten_pos place))
    linarith
  have above : (10 : ℚ) ^ bound ≤ other * 10 ^ place' := by
    have coarser : (10 : ℚ) ^ bound ≤ 10 ^ place' :=
      zpow_le_zpow_right₀ (by norm_num) (not_lt.mp high)
    have large := mul_le_mul_of_nonneg_right one (le_of_lt (zpow_ten_pos place'))
    linarith
  have lowEnd := le_trans lower (mul_le_mul_of_nonneg_right below (le_of_lt unit))
  have highEnd := le_trans (mul_le_mul_of_nonneg_right above (le_of_lt unit)) upper
  rcases roundingInterval_narrow x with narrow | tiny
  · have narrow' : (9 : ℚ) * x.roundingInterval.high < 10 * x.roundingInterval.low := by
      exact_mod_cast narrow
    nlinarith
  · have tiny' : (10 : ℚ) ^ 5 * x.roundingInterval.high < x.roundingInterval.unit := by
      exact_mod_cast tiny
    have hundredth : (10 : ℚ) ^ (-5 : Int) ≤ 10 ^ bound := zpow_le_zpow_right₀ (by norm_num) large
    have value : (10 : ℚ) ^ (-5 : Int) = 1 / 100000 := by norm_num
    rw [value] at hundredth
    have share := mul_le_mul_of_nonneg_right hundredth (le_of_lt unit)
    linarith

end SessionProbe.Decimal
