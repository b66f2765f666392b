import Mathlib.Algebra.Group.Nat.Defs
import SessionProbe.Wire.Marshal

set_option autoImplicit false

/-!
Numbers as octets, and the gaps in front of them. A number that fits its octets is read back from
them, whichever octet comes first.
-/

namespace SessionProbe.Wire

/-! ### Octets of numbers -/

theorem length_lowOctets (count n : Nat) : (lowOctets count n).length = count := by
  induction count generalizing n with
  | zero => rfl
  | succ count ih =>
      rw [lowOctets, List.length_cons, ih]

theorem ofLowOctets_lowOctets {count n : Nat} (fits : n < 256 ^ count) :
    ofLowOctets (lowOctets count n) = n := by
  induction count generalizing n with
  | zero =>
      rw [Nat.pow_zero] at fits
      have zero : n = 0 := by omega
      rw [zero]
      rfl
  | succ count ih =>
      have rest : n / 256 < 256 ^ count := by
        rw [Nat.pow_succ] at fits
        exact Nat.div_lt_of_lt_mul (by omega)
      have low : n.toUInt8.toNat = n % 256 := rfl
      rw [lowOctets, ofLowOctets, ih rest, low]
      omega

@[simp] theorem ByteOrder.length_octets (order : ByteOrder) (count n : Nat) :
    (order.octets count n).length = count := by
  cases order with
  | little => exact length_lowOctets count n
  | big => exact List.length_reverse.trans (length_lowOctets count n)

theorem ByteOrder.number_octets (order : ByteOrder) {count n : Nat} (fits : n < 256 ^ count) :
    order.number (order.octets count n) = n := by
  cases order with
  | little => exact ofLowOctets_lowOctets fits
  | big =>
      change ofLowOctets (lowOctets count n).reverse.reverse = n
      rw [List.reverse_reverse, ofLowOctets_lowOctets fits]

/-! ### Gaps -/

@[simp] theorem length_padding (alignment position : Nat) :
    (padding alignment position).length = gap alignment position := by
  rw [padding, List.length_replicate]

@[simp] theorem gap_one (position : Nat) : gap 1 position = 0 :=
  Nat.mod_one _

@[simp] theorem gap_add_gap (alignment position : Nat) :
    gap alignment (position + gap alignment position) = 0 := by
  rcases Nat.eq_zero_or_pos alignment with zero | positive
  · rw [zero, gap, Nat.mod_zero, Nat.zero_sub]
  · have aligned : (position + gap alignment position) % alignment = 0 := by
      rw [gap, Nat.add_mod_mod, ← Nat.mod_add_mod,
        Nat.add_sub_cancel' (Nat.le_of_lt (Nat.mod_lt position positive)), Nat.mod_self]
    rw [gap, aligned, Nat.sub_zero, Nat.mod_self]

@[simp] theorem padding_add_gap (alignment position : Nat) :
    padding alignment (position + gap alignment position) = [] := by
  rw [padding, gap_add_gap, List.replicate_zero]

end SessionProbe.Wire
