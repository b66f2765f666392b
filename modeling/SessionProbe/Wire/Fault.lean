import SessionProbe.Text.Utf8
import SessionProbe.Wire.Signature

set_option autoImplicit false

/-!
Why octets are no values of the types they should have.
-/

namespace SessionProbe.Wire

/-- What may be nested only so deep. -/
inductive Container
  | struct
  | array
  /-- Structs, arrays and variants together. -/
  | any
deriving Repr, DecidableEq

/-- How deep containers may be nested. -/
def Container.limit : Container → Nat
  | .struct | .array => 32
  | .any => 64

/-- Why reading values stops. -/
inductive Fault
  /-- Less octets are there than needed, counted from the start of the stretch being read. -/
  | short (length needed : Nat)
  | padding (octet : UInt8)
  | notBoolean (number : Nat)
  | interiorNul
  | notText (fault : Text.Utf8.Fault)
  | handle
  | outOfBounds
  | tooDeep (container : Container)
  | signature (fault : SignatureFault)
  | longSignature (length : Nat)
deriving Repr, DecidableEq

def Container.plural : Container → String
  | .struct => "structures"
  | .array => "arrays"
  | .any => "containers"

def Fault.message : Fault → String
  | .short length needed => s!"invalid length {length}, expected >= {needed}"
  | .padding octet => s!"Unexpected non-0 padding byte `{octet.toNat}`"
  | .notBoolean number => s!"invalid value: integer `{number}`, expected 0 or 1"
  | .interiorNul =>
    "invalid value: character `\x00`, "
      ++ "expected D-Bus string type must not contain interior null bytes"
  | .notText fault => fault.message
  | .handle => "File descriptor not in the given FD index"
  | .outOfBounds => "Out of bounds range specified"
  | .tooDeep container =>
    s!"Maximum allowed depth for {container.plural} in encoding was exceeded"
  | .signature fault => fault.message
  | .longSignature length => s!"invalid length {length}, expected <= 255 characters"

end SessionProbe.Wire
