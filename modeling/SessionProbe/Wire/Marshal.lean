import SessionProbe.Text.Utf8
import SessionProbe.Wire.Value

set_option autoImplicit false

/-!
Writing values as octets. Each value starts at a multiple of its alignment, counted from the
start of the body, and zeros fill the gap.
-/

namespace SessionProbe.Wire

/-- Which octet of a number comes first. -/
inductive ByteOrder
  | little
  | big
deriving Repr, DecidableEq, Inhabited

/-- The lowest `count` octets of a number, the lowest first. -/
def lowOctets : (count : Nat) → Nat → List UInt8
  | 0, _ => []
  | count + 1, n => n.toUInt8 :: lowOctets count (n / 256)

/-- The number with the given octets, the lowest first. -/
def ofLowOctets : List UInt8 → Nat
  | [] => 0
  | octet :: rest => octet.toNat + 256 * ofLowOctets rest

def ByteOrder.octets (order : ByteOrder) (count n : Nat) : List UInt8 :=
  match order with
  | .little => lowOctets count n
  | .big => (lowOctets count n).reverse

def ByteOrder.number (order : ByteOrder) (octets : List UInt8) : Nat :=
  match order with
  | .little => ofLowOctets octets
  | .big => ofLowOctets octets.reverse

/-- How many octets lie between a position and the next multiple of an alignment. -/
def gap (alignment position : Nat) : Nat :=
  (alignment - position % alignment) % alignment

/-- The zeros up to the next multiple of an alignment. -/
def padding (alignment position : Nat) : List UInt8 :=
  List.replicate (gap alignment position) 0

/-- A number of `width` octets at the next multiple of its width. -/
def ByteOrder.aligned (order : ByteOrder) (width position n : Nat) : List UInt8 :=
  padding width position ++ order.octets width n

/-- A text with its length in four octets before it and a zero behind it. -/
def ByteOrder.text (order : ByteOrder) (position : Nat) (text : String) : List UInt8 :=
  order.aligned 4 position (Text.Utf8.size text) ++ Text.Utf8.encode text ++ [0]

/-- A signature with its length in one octet before it and a zero behind it. -/
def signatureOctets (text : String) : List UInt8 :=
  (Text.Utf8.size text).toUInt8 :: Text.Utf8.encode text ++ [0]

def Scalar.marshal (order : ByteOrder) (position : Nat) : Scalar → List UInt8
  | .byte value => [value]
  | .boolean value => order.aligned 4 position (if value then 1 else 0)
  | .int16 value => order.aligned 2 position value.toUInt16.toNat
  | .uint16 value => order.aligned 2 position value.toNat
  | .int32 value => order.aligned 4 position value.toUInt32.toNat
  | .uint32 value => order.aligned 4 position value.toNat
  | .int64 value => order.aligned 8 position value.toUInt64.toNat
  | .uint64 value => order.aligned 8 position value.toNat
  | .double value => order.aligned 8 position value.bits.toNat
  | .string value => order.text position value
  | .objectPath value => order.text position value
  | .signature value => signatureOctets value

/-- The elements of an array or dictionary, given as octets for the position they start at: their
length in four octets, the gap up to their alignment, which the length leaves out, and they. -/
def ByteOrder.elements (order : ByteOrder) (position alignment : Nat)
    (content : (position : Nat) → List UInt8) : List UInt8 :=
  let lengthEnd := position + gap 4 position + 4
  let octets := content (lengthEnd + gap alignment lengthEnd)
  order.aligned 4 position octets.length ++ padding alignment lengthEnd ++ octets

mutual

def Value.marshal (order : ByteOrder) (position : Nat) : Value → List UInt8
  | .scalar value => value.marshal order position
  | .variant content =>
    let signature := signatureOctets content.ty.signature
    signature ++ content.marshal order (position + signature.length)
  | .array element items =>
    order.elements position element.alignment fun start => Value.marshalAll order start items
  | .dictionary _ _ entries =>
    order.elements position 8 fun start => Value.marshalEntries order start entries
  | .struct fields =>
    padding 8 position ++ Value.marshalAll order (position + gap 8 position) fields

def Value.marshalAll (order : ByteOrder) (position : Nat) : List Value → List UInt8
  | [] => []
  | value :: rest =>
    let octets := value.marshal order position
    octets ++ Value.marshalAll order (position + octets.length) rest

/-- Entries one after the other, each at a multiple of eight. -/
def Value.marshalEntries (order : ByteOrder) (position : Nat) : List (Value × Value) → List UInt8
  | [] => []
  | (key, value) :: rest =>
    let keyOctets := padding 8 position ++ key.marshal order (position + gap 8 position)
    let octets := keyOctets ++ value.marshal order (position + keyOctets.length)
    octets ++ Value.marshalEntries order (position + octets.length) rest

end

end SessionProbe.Wire
