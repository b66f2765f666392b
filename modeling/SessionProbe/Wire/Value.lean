import SessionProbe.Decimal.Binary64
import SessionProbe.Wire.Ty

set_option autoImplicit false

/-!
The values that cross the bus. Arrays and dictionaries carry the types of their elements, which
an empty one could not show, and a dictionary holds its entries in the order of the message.
-/

namespace SessionProbe.Wire

open Decimal (Binary64)

inductive Scalar
  | byte (value : UInt8)
  | boolean (value : Bool)
  | int16 (value : Int16)
  | uint16 (value : UInt16)
  | int32 (value : Int32)
  | uint32 (value : UInt32)
  | int64 (value : Int64)
  | uint64 (value : UInt64)
  | double (value : Binary64)
  | string (value : String)
  | objectPath (value : String)
  | signature (value : String)
deriving Repr, DecidableEq, Inhabited

inductive Value
  | scalar (value : Scalar)
  | variant (content : Value)
  | array (element : Ty) (items : List Value)
  | dictionary (key value : Ty) (entries : List (Value × Value))
  | struct (fields : List Value)
deriving Repr, Inhabited

def Scalar.kind : Scalar → Basic
  | .byte _ => .byte
  | .boolean _ => .boolean
  | .int16 _ => .int16
  | .uint16 _ => .uint16
  | .int32 _ => .int32
  | .uint32 _ => .uint32
  | .int64 _ => .int64
  | .uint64 _ => .uint64
  | .double _ => .double
  | .string _ => .string
  | .objectPath _ => .objectPath
  | .signature _ => .signature

mutual

def Value.ty : Value → Ty
  | .scalar value => .basic value.kind
  | .variant _ => .variant
  | .array element _ => .array element
  | .dictionary key value _ => .dictionary key value
  | .struct fields => .struct (Value.types fields)

def Value.types : List Value → List Ty
  | [] => []
  | value :: rest => value.ty :: Value.types rest

end

mutual

/-- How many containers lie around the innermost part of a value, the value itself included:
arrays, dictionaries, structs and variants. -/
def Value.depth : Value → Nat
  | .scalar _ => 0
  | .variant content => content.depth + 1
  | .array _ items => Value.depths items + 1
  | .dictionary _ _ entries => Value.entryDepths entries + 1
  | .struct fields => Value.depths fields + 1

def Value.depths : List Value → Nat
  | [] => 0
  | value :: rest => max value.depth (Value.depths rest)

def Value.entryDepths : List (Value × Value) → Nat
  | [] => 0
  | (key, value) :: rest => max (max key.depth value.depth) (Value.entryDepths rest)

end

mutual

/-- Whether every part of a value has the type that its container states. -/
def Value.IsTyped : Value → Prop
  | .scalar _ => True
  | .variant content => content.IsTyped
  | .array element items => Value.AllTyped element items
  | .dictionary key value entries => Value.EntriesTyped key value entries
  | .struct fields => Value.FieldsTyped fields

def Value.AllTyped (ty : Ty) : List Value → Prop
  | [] => True
  | value :: rest => value.ty = ty ∧ value.IsTyped ∧ Value.AllTyped ty rest

def Value.EntriesTyped (keyTy valueTy : Ty) : List (Value × Value) → Prop
  | [] => True
  | (key, value) :: rest =>
    key.ty = keyTy ∧ key.IsTyped ∧ value.ty = valueTy ∧ value.IsTyped ∧
      Value.EntriesTyped keyTy valueTy rest

/-- Whether values that may differ in type are typed inside. -/
def Value.FieldsTyped : List Value → Prop
  | [] => True
  | value :: rest => value.IsTyped ∧ Value.FieldsTyped rest

end

end SessionProbe.Wire
