import SessionProbe.Decimal.Shortest

set_option autoImplicit false

/-!
How the digits of a double are laid out: with a decimal point where its layout says so, else
with an exponent.
-/

namespace SessionProbe.Decimal

/-- The choices between two texts of one decimal. -/
structure Layout where
  /-- Whether a number whose first digit counts `10 ^ place` is written without an exponent. -/
  isPositional : (place : Int) → Bool
  /-- What follows the digits of a whole number. -/
  wholeEnd : String
  /-- What stands before an exponent that is not negative. -/
  plus : String
  /-- Which of two shortest decimals equally near is written. -/
  tie : Tie

/-- Digits with a decimal point; the first of them counts `10 ^ place`. -/
def positional (wholeEnd : String) (digits : List Char) (place : Int) : String :=
  let zeros (count : Int) : List Char := List.replicate count.toNat '0'
  if place < 0 then
    "0." ++ String.ofList (zeros (-place - 1) ++ digits)
  else if (digits.length : Int) ≤ place + 1 then
    String.ofList (digits ++ zeros (place + 1 - digits.length)) ++ wholeEnd
  else
    String.ofList (digits.take (place + 1).toNat) ++ "." ++
      String.ofList (digits.drop (place + 1).toNat)

/-- Digits with an exponent; the first of them counts `10 ^ place`. -/
def scientific (plus : String) (digits : List Char) (place : Int) : String :=
  let fraction := digits.drop 1
  String.ofList (digits.take 1)
    ++ (if fraction.isEmpty then "" else "." ++ String.ofList fraction)
    ++ "e" ++ (if 0 ≤ place then plus else "") ++ toString place

def Layout.digits (layout : Layout) (d : Digits) : String :=
  let digits := Nat.toDigits 10 d.digits
  let place := d.exponent + digits.length - 1
  if layout.isPositional place then positional layout.wholeEnd digits place
  else scientific layout.plus digits place

/-- A double in a layout: the shortest decimal that reads back. Whatever is not a number has one
text, without a sign. -/
def Layout.text (layout : Layout) (x : Binary64) : String :=
  if x.isNaN then "NaN"
  else
    (if x.isNegative then "-" else "") ++
      (if x.isInfinite then "inf"
      else if x.magnitude = 0 then positional layout.wholeEnd ['0'] 0
      else layout.digits (x.shortest layout.tie))

end SessionProbe.Decimal
