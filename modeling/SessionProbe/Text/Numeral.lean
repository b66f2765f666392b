set_option autoImplicit false

/-!
Numbers in texts.
-/

namespace SessionProbe.Text

/-- The number that a text writes: decimal digits, which a plus sign may precede. -/
def unsigned? (text : List Char) : Option Nat :=
  let digits :=
    match text with
    | '+' :: rest => rest
    | _ => text
  if digits.isEmpty || !digits.all Char.isDigit then none
  else some (digits.foldl (fun n c => 10 * n + (c.toNat - '0'.toNat)) 0)

end SessionProbe.Text
