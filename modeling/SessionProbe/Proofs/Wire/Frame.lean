import SessionProbe.Reply
import SessionProbe.Wire.Marshal

set_option autoImplicit false

/-!
Frames made from values.
-/

namespace SessionProbe

/-- The frame that carries values: their signature, and they as octets in a byte order. -/
def Frame.ofValues (order : Wire.ByteOrder) (values : List Wire.Value) : Frame where
  signature := Wire.Ty.signatures (Wire.Value.types values)
  body := { order, octets := (Wire.Value.marshalAll order 0 values).toArray }

def Frame.ofText (text : String) : Frame :=
  Frame.ofValues .little [.scalar (.string text)]

def Frame.ofNumber (number : UInt32) : Frame :=
  Frame.ofValues .little [.scalar (.uint32 number)]

end SessionProbe
