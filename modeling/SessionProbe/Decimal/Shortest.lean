import SessionProbe.Decimal.Binary64

set_option autoImplicit false

/-!
The shortest decimal of a double: among the decimals that round back to it one with the fewest
digits, and of those the nearest. All arithmetic is exact.
-/

namespace SessionProbe.Decimal

/-- The decimal `digits * 10 ^ exponent`. -/
structure Digits where
  digits : Nat
  exponent : Int
deriving Repr, DecidableEq

/-- Which of two decimals equally near is taken. -/
inductive Tie
  | up
  | toEven
deriving Repr, DecidableEq

/-- Whether the lower of two neighbours on a grid is taken when both are equally near. -/
def Tie.takesLower (tie : Tie) (lower : Nat) : Bool :=
  match tie with
  | .up => false
  | .toEven => lower % 2 == 0

/-- A stretch of quotients `numerator / unit` around a value. -/
structure Interval where
  low : Nat
  value : Nat
  high : Nat
  unit : Nat
  /-- Whether the ends belong to it. -/
  closed : Bool
deriving Repr

/-- The quotients that round to a finite positive double. A quotient half way to a neighbour
rounds to the even significand. -/
def Binary64.roundingInterval (x : Binary64) : Interval :=
  let (spacing, part) := Binary64.powerOfTwo x.scale
  let value := 4 * x.significand * spacing
  { low := value - (if x.isNarrowBelow then spacing else 2 * spacing)
    value
    high := value + 2 * spacing
    unit := 4 * part
    closed := x.significand % 2 == 0 }

def Interval.contains (i : Interval) (numerator denominator : Nat) : Bool :=
  let low := i.low * denominator
  let high := i.high * denominator
  let point := numerator * i.unit
  if i.closed then low ≤ point && point ≤ high else low < point && point < high

/-- `10 ^ e` as numerator and denominator. -/
def powerOfTen (e : Int) : Nat × Nat :=
  if 0 ≤ e then (Nat.pow 10 e.toNat, 1) else (1, Nat.pow 10 (-e).toNat)

def digitCount (n : Nat) : Nat :=
  (Nat.toDigits 10 n).length

/-- The exponent of the greatest power of ten that is at most a positive quotient. -/
def floorLog10 (numerator denominator : Nat) : Int :=
  if denominator ≤ numerator then
    (digitCount (numerator / denominator) : Int) - 1
  else
    -(digitCount ((denominator - 1) / numerator) : Int)

/-- The point of the grid of multiples of `10 ^ exponent` that lies in the interval and nearest to
its value. Only the two neighbours of the value can be that point. -/
def Interval.nearest? (i : Interval) (tie : Tie) (exponent : Int) : Option Digits :=
  let (power, part) := powerOfTen exponent
  let below := i.value * part / (power * i.unit)
  let fits (n : Nat) : Bool := i.contains (n * power) part
  let twice := 2 * i.value * part
  let middle := (2 * below + 1) * power * i.unit
  let prefersBelow : Bool := twice < middle || (twice == middle && tie.takesLower below)
  if fits below && (prefersBelow || !fits (below + 1)) then some ⟨below, exponent⟩
  else if fits (below + 1) then some ⟨below + 1, exponent⟩
  else none

/-- The same decimal without a last zero. A value just below a power of ten can have that power
as its nearest point, with one digit more than the grid has room for. -/
def Digits.trimmed (d : Digits) : Digits :=
  if d.digits % 10 = 0 then ⟨d.digits / 10, d.exponent + 1⟩ else d

/-- The shortest decimal of a finite positive double. Seventeen digits always suffice. -/
def Binary64.shortest (x : Binary64) (tie : Tie) : Digits :=
  let interval := x.roundingInterval
  let top := floorLog10 interval.value interval.unit
  let found := (List.range 17).findSome? fun (count : Nat) => interval.nearest? tie (top - count)
  (found.getD ⟨0, 0⟩).trimmed

end SessionProbe.Decimal
