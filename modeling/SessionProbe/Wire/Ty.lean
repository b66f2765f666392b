set_option autoImplicit false

/-!
The types of the values that cross the bus, and the signatures that write them down.
-/

namespace SessionProbe.Wire

/-- The types without parts. A handle counts among them, but no value has that type: what it would
refer to never comes along with a message. -/
inductive Basic
  | byte
  | boolean
  | int16
  | uint16
  | int32
  | uint32
  | int64
  | uint64
  | double
  | string
  | objectPath
  | signature
  | handle
deriving Repr, DecidableEq, Inhabited

/-- A complete type. `entry` is the pair of a dictionary standing alone: a signature may contain
it, and no value has it. -/
inductive Ty
  | basic (kind : Basic)
  | variant
  | array (element : Ty)
  | dictionary (key value : Ty)
  | entry (key value : Ty)
  | struct (fields : List Ty)
deriving Repr, Inhabited

/-- The character that stands for a basic type. -/
def Basic.code : Basic → Char
  | .byte => 'y'
  | .boolean => 'b'
  | .int16 => 'n'
  | .uint16 => 'q'
  | .int32 => 'i'
  | .uint32 => 'u'
  | .int64 => 'x'
  | .uint64 => 't'
  | .double => 'd'
  | .string => 's'
  | .objectPath => 'o'
  | .signature => 'g'
  | .handle => 'h'

def Basic.ofCode? : Char → Option Basic
  | 'y' => some .byte
  | 'b' => some .boolean
  | 'n' => some .int16
  | 'q' => some .uint16
  | 'i' => some .int32
  | 'u' => some .uint32
  | 'x' => some .int64
  | 't' => some .uint64
  | 'd' => some .double
  | 's' => some .string
  | 'o' => some .objectPath
  | 'g' => some .signature
  | 'h' => some .handle
  | _ => none

theorem Basic.ofCode?_code (kind : Basic) : Basic.ofCode? kind.code = some kind := by
  cases kind <;> rfl

/-- A value starts at a multiple of this many octets. -/
def Basic.alignment : Basic → Nat
  | .byte | .signature => 1
  | .int16 | .uint16 => 2
  | .boolean | .int32 | .uint32 | .string | .objectPath | .handle => 4
  | .int64 | .uint64 | .double => 8

/-- A value starts at a multiple of this many octets. -/
def Ty.alignment : Ty → Nat
  | .basic kind => kind.alignment
  | .variant => 1
  | .array _ | .dictionary _ _ => 4
  | .entry _ _ | .struct _ => 8

mutual

def Ty.signature : Ty → String
  | .basic kind => String.singleton kind.code
  | .variant => "v"
  | .array element => "a" ++ element.signature
  | .dictionary key value => "a\x7b" ++ key.signature ++ value.signature ++ "\x7d"
  | .entry key value => "\x7b" ++ key.signature ++ value.signature ++ "\x7d"
  | .struct fields => "(" ++ Ty.signatures fields ++ ")"

def Ty.signatures : List Ty → String
  | [] => ""
  | ty :: rest => ty.signature ++ Ty.signatures rest

end

end SessionProbe.Wire
