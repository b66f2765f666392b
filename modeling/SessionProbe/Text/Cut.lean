import SessionProbe.Text.Utf8

set_option autoImplicit false

/-!
Texts cut at octets. A text can be cut between two characters only: at an octet inside a character
there is no cut.
-/

namespace SessionProbe.Text

def width (text : List Char) : Nat :=
  (text.flatMap Utf8.encodeChar).length

/-- What stands in the first octets of a text, and what stands behind them. -/
def cut? : (octets : Nat) → List Char → Option (List Char × List Char)
  | 0, text => some ([], text)
  | _ + 1, [] => none
  | octets + 1, c :: rest =>
    if width [c] ≤ octets + 1 then
      (cut? (octets + 1 - width [c]) rest).map fun (front, back) => (c :: front, back)
    else
      none

/-- What stands in a text from one octet up to another. -/
def between? (start stop : Nat) (text : List Char) : Option (List Char) := do
  let (_, back) ← cut? start text
  let (part, _) ← cut? (stop - start) back
  return part

def behind? (start : Nat) (text : List Char) : Option (List Char) :=
  Prod.snd <$> cut? start text

end SessionProbe.Text
