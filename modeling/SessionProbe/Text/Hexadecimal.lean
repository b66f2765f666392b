set_option autoImplicit false

/-!
Numbers and octets in hexadecimal digits.
-/

namespace SessionProbe.Text

/-- A number with the digits `0` to `f`. -/
def hexadecimal (n : Nat) : String :=
  String.ofList (Nat.toDigits 16 n)

/-- The value of a hexadecimal digit, which may be of either case. -/
def hexDigit? (c : Char) : Option Nat :=
  if c.isDigit then some (c.toNat - '0'.toNat)
  else if 'a' ≤ c ∧ c ≤ 'f' then some (c.toNat - 'a'.toNat + 10)
  else if 'A' ≤ c ∧ c ≤ 'F' then some (c.toNat - 'A'.toNat + 10)
  else none

/-- The number that hexadecimal digits write. -/
def hexNumber? (digits : List Char) : Option Nat :=
  digits.foldlM (fun n c => (16 * n + ·) <$> hexDigit? c) 0

/-- The octets that pairs of hexadecimal digits write. -/
def hexOctets? : List Char → Option (List UInt8)
  | [] => some []
  | [_] => none
  | high :: low :: rest => do
    let octet ← hexNumber? [high, low]
    let octets ← hexOctets? rest
    return octet.toUInt8 :: octets

end SessionProbe.Text
