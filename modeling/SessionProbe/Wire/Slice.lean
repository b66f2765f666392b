import SessionProbe.Wire.Fault
import SessionProbe.Wire.Marshal

set_option autoImplicit false

/-!
Reading the parts of a body. A reader moves a position through the body and leaves it where it
stopped also when it fails: whoever reads a container looks at how far its element came. Faults
count from the start of the slice that is read, while alignment counts from the start of the body.
-/

namespace SessionProbe.Wire

structure Body where
  order : ByteOrder
  octets : Array UInt8
deriving Repr, Inhabited

/-- A part of a body: from `start` to the end. -/
structure Slice where
  body : Body
  start : Nat

/-- A reading of part of a body. The state is the position in the body. -/
abbrev Reader (α : Type) : Type := EStateM Fault Nat α

namespace Slice

variable (slice : Slice)

/-- The position behind the last octet. -/
def stop : Nat := slice.body.octets.size

/-- The fault of a slice that ends before a position. -/
def endsBefore (position : Nat) : Fault :=
  .short (slice.stop - slice.start) (position - slice.start)

/-- Skip the zeros up to the next multiple of an alignment. -/
def pad (alignment : Nat) : Reader Unit := fun position =>
  let next := position + gap alignment position
  if position < next ∧ slice.stop < next then
    .error (slice.endsBefore next) position
  else
    match (slice.body.octets.extract position next).toList.find? (· ≠ 0) with
    | some octet => .error (.padding octet) position
    | none => .ok () next

def take (count : Nat) : Reader (List UInt8) := fun position =>
  let next := position + count
  if slice.stop < next then
    .error (slice.endsBefore next) position
  else
    .ok (slice.body.octets.extract position next).toList next

/-- Read an unsigned number at the next multiple of its width. -/
def number (width : Nat) : Reader Nat := do
  slice.pad width
  return slice.body.order.number (← slice.take width)

/-- Read a text of known length and skip the octet behind it, whatever it is and even if it is
missing. -/
def content (length : Nat) : Reader String := do
  let octets ← slice.take length
  if 0 ∈ octets then
    throw .interiorNul
  modify (· + 1)
  match Text.Utf8.decode octets with
  | .ok text => return text
  | .error fault => throw (.notText fault)

/-- Read a text with its length in four octets. -/
def text : Reader String := do
  slice.content (← slice.number 4)

/-- Read a text with its length in one octet. -/
def signatureText : Reader String := do
  slice.content (← slice.number 1)

def scalar : Basic → Reader Scalar
  | .byte => return .byte (UInt8.ofNat (← slice.number 1))
  | .boolean => do
    match ← slice.number 4 with
    | 0 => return .boolean false
    | 1 => return .boolean true
    | n => throw (.notBoolean n)
  | .int16 => return .int16 (UInt16.ofNat (← slice.number 2)).toInt16
  | .uint16 => return .uint16 (UInt16.ofNat (← slice.number 2))
  | .int32 => return .int32 (UInt32.ofNat (← slice.number 4)).toInt32
  | .uint32 => return .uint32 (UInt32.ofNat (← slice.number 4))
  | .int64 => return .int64 (UInt64.ofNat (← slice.number 8)).toInt64
  | .uint64 => return .uint64 (UInt64.ofNat (← slice.number 8))
  | .double => return .double ⟨UInt64.ofNat (← slice.number 8)⟩
  | .string => return .string (← slice.text)
  | .objectPath => return .objectPath (← slice.text)
  | .signature => return .signature (← slice.signatureText)
  | .handle => do
    let _ ← slice.number 4
    throw .handle

/-- Read what starts at the position as a slice of its own that has to end at most `length` octets
behind `start`. Coming too far is the fault that counts, also of a reading that failed. -/
def element {α : Type} (start length : Nat) (read : Slice → Reader α) : Reader α := fun position =>
  if slice.stop < position then
    .error .outOfBounds position
  else
    match read ⟨slice.body, position⟩ position with
    | .ok value next =>
      if start + length < next then .error (.short length (next - start)) next
      else .ok value next
    | .error fault next =>
      if start + length < next then .error (.short length (next - start)) next
      else .error fault next

end Slice

/-- Read until the position is `stop`. Every reading takes at least one octet, so that `fuel` is the
number of octets left at most. -/
def Reader.upTo {α : Type} (stop : Nat) (read : Reader α) : (fuel : Nat) → Reader (List α)
  | 0 => do
    if (← get) = stop then return [] else throw .outOfBounds
  | fuel + 1 => do
    if (← get) = stop then
      return []
    else
      let value ← read
      let values ← Reader.upTo stop read fuel
      return value :: values

def Reader.each {α β : Type} (read : α → Reader β) : List α → Reader (List β)
  | [] => return []
  | item :: rest => do
    let value ← read item
    let values ← Reader.each read rest
    return value :: values

end SessionProbe.Wire
