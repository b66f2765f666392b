set_option autoImplicit false

/-!
Doubles as bit patterns. The lower 63 bits rise with the absolute value, so order is read off
them; a finite double is a whole `significand` times a power of two; and `ofRatio` rounds a
quotient of whole numbers to the nearest double.
-/

namespace SessionProbe.Decimal

/-- A double, by its bits: sign, eleven bits of exponent, 52 bits of fraction. -/
structure Binary64 where
  bits : UInt64
deriving Repr, DecidableEq, Inhabited

namespace Binary64

def isNegative (x : Binary64) : Bool :=
  Nat.pow 2 63 ≤ x.bits.toNat

def magnitude (x : Binary64) : Nat :=
  x.bits.toNat % Nat.pow 2 63

/-- The magnitude of both infinities; whatever lies above is not a number. -/
def infinityMagnitude : Nat := 0x7FF * Nat.pow 2 52

def isNaN (x : Binary64) : Bool :=
  infinityMagnitude < x.magnitude

def isInfinite (x : Binary64) : Bool :=
  x.magnitude == infinityMagnitude

def isFinite (x : Binary64) : Bool :=
  x.magnitude < infinityMagnitude

/-- The place of a double among all doubles: numbers by value, with one place for both zeros, and
beyond the infinities those that are not a number, by sign and bits. -/
def rank (x : Binary64) : Int :=
  if x.isNegative then -(x.magnitude : Int) else x.magnitude

/-- The whole number that a power of two scales to the absolute value of a finite double. -/
def significand (x : Binary64) : Nat :=
  if x.magnitude < Nat.pow 2 52 then x.magnitude else Nat.pow 2 52 + x.magnitude % Nat.pow 2 52

def scale (x : Binary64) : Int :=
  if x.magnitude < Nat.pow 2 52 then -1074 else (x.magnitude / Nat.pow 2 52 : Nat) - 1075

/-- Whether the next smaller double is only half as far away as the next greater one. -/
def isNarrowBelow (x : Binary64) : Bool :=
  x.magnitude % Nat.pow 2 52 == 0 && Nat.pow 2 53 ≤ x.magnitude

/-- `2 ^ e` as numerator and denominator. -/
def powerOfTwo (e : Int) : Nat × Nat :=
  if 0 ≤ e then (Nat.pow 2 e.toNat, 1) else (1, Nat.pow 2 (-e).toNat)

/-- The whole number nearest to a quotient, the even one of two. -/
def nearestEven (numerator denominator : Nat) : Nat :=
  let below := numerator / denominator
  let twice := 2 * (numerator % denominator)
  if twice < denominator then below
  else if denominator < twice then below + 1
  else below + below % 2

/-- The exponent of the greatest power of two that is at most a positive quotient. -/
def floorLog2 (numerator denominator : Nat) : Int :=
  let guess : Int := (numerator.log2 : Int) - denominator.log2
  let (power, unit) := powerOfTwo guess
  if numerator * unit < power * denominator then guess - 1 else guess

/-- The double nearest to a quotient of whole numbers; none when it exceeds every finite one. -/
def ofRatio (negative : Bool) (numerator denominator : Nat) : Option Binary64 :=
  let sign : Nat := if negative then Nat.pow 2 63 else 0
  if numerator = 0 then
    some ⟨UInt64.ofNat sign⟩
  else
    let exponent := max (floorLog2 numerator denominator - 52) (-1074)
    let (power, part) := powerOfTwo exponent
    let magnitude :=
      (exponent + 1074).toNat * Nat.pow 2 52 + nearestEven (numerator * part) (denominator * power)
    if magnitude < infinityMagnitude then some ⟨UInt64.ofNat (sign + magnitude)⟩ else none

/-- The numerator and denominator of the absolute value of a finite double. -/
def toRatio (x : Binary64) : Nat × Nat :=
  let (power, part) := powerOfTwo x.scale
  (x.significand * power, part)

end Binary64

end SessionProbe.Decimal
