set_option autoImplicit false

/-!
Sets of characters given by where they begin and end. A property of characters is a rising
list of numbers: from the first to before the second it holds, from the second to before the
third it does not, and so on.
-/

namespace SessionProbe.Text

/-- Whether `n` lies inside the stretches between the boundaries: an odd number of them is at
most `n`. -/
def within (boundaries : List Nat) (n : Nat) : Bool :=
  (boundaries.takeWhile (· ≤ n)).length % 2 == 1

end SessionProbe.Text
