import SessionProbe.Decimal.Layout
import SessionProbe.Text.Quoted
import SessionProbe.Wire.Dictionary
import SessionProbe.Text.Utf8

set_option autoImplicit false

/-!
The text of a value. Alone, a value prints bare: texts as they are, numbers as digits, a variant
as its content. Containers print in the GVariant text form, where texts are quoted and types are
annotated as far as the text would not show them: on the first element of an array or dictionary,
on all fields of an annotated struct, on empty containers, and always inside a variant.
-/

namespace SessionProbe.Wire

open Decimal (Binary64 Layout)

/-- Alone, a double always shows its point or its exponent; the exponent stands below `1e-4` and
from `1e16` on. -/
def bareDouble : Layout where
  isPositional place := -4 ≤ place && place ≤ 15
  wholeEnd := ".0"
  plus := ""
  tie := .up

/-- In a container, a double never has an exponent, and a whole one ends with its point. -/
def containedDouble : Layout where
  isPositional _ := true
  wholeEnd := "."
  plus := ""
  tie := .up

/-- Two hexadecimal digits for an octet. -/
def hexByte (octet : UInt8) : String :=
  String.ofList [Nat.digitChar (octet.toNat / 16), Nat.digitChar (octet.toNat % 16)]

/-- The annotation that tells a type which the text of its values would not show. -/
def Basic.annotation : Basic → String
  | .byte => "byte "
  | .int16 => "int16 "
  | .uint16 => "uint16 "
  | .uint32 => "uint32 "
  | .int64 => "int64 "
  | .uint64 => "uint64 "
  | .objectPath => "objectpath "
  | .signature => "signature "
  | .boolean | .int32 | .double | .string | .handle => ""

/-- The text of a scalar in a container, without its annotation. -/
def Scalar.contained : Scalar → String
  | .byte value => "0x" ++ hexByte value
  | .boolean value => if value then "true" else "false"
  | .int16 value => toString value.toInt
  | .uint16 value => toString value.toNat
  | .int32 value => toString value.toInt
  | .uint32 value => toString value.toNat
  | .int64 value => toString value.toInt
  | .uint64 value => toString value.toNat
  | .double value => containedDouble.text value
  | .string value => Text.quoted value
  | .objectPath value => Text.quoted value
  | .signature value => Text.quoted value

def Scalar.bare : Scalar → String
  | .byte value => toString value.toNat
  | .boolean value => if value then "1" else "0"
  | .int16 value => toString value.toInt
  | .uint16 value => toString value.toNat
  | .int32 value => toString value.toInt
  | .uint32 value => toString value.toNat
  | .int64 value => toString value.toInt
  | .uint64 value => toString value.toNat
  | .double value => bareDouble.text value
  | .string value => value
  | .objectPath value => value
  | .signature value => value

/-- The octets of an array that holds nothing but bytes. -/
def bytes? : List Value → Option (List UInt8)
  | [] => some []
  | .scalar (.byte value) :: rest => (value :: ·) <$> bytes? rest
  | _ :: _ => none

/-- What a byte string holds: the bytes before its last byte, if that is zero and no other is. -/
def byteString? (items : List Value) : Option (List UInt8) :=
  match bytes? items with
  | none => none
  | some octets =>
    let content := octets.dropLast
    if octets.getLast? = some 0 ∧ 0 ∉ content then some content else none

mutual

/-- The text form of a value, annotated or not. -/
def Value.form (annotate : Bool) : Value → String
  | .scalar value => (if annotate then value.kind.annotation else "") ++ value.contained
  | .variant content => "<" ++ Value.form true content ++ ">"
  | .array element items =>
    match items with
    | [] => (if annotate then "@" ++ (Ty.array element).signature ++ " " else "") ++ "[]"
    | item :: rest =>
      match byteString? (item :: rest) with
      | some content => "b" ++ Text.quoted (Text.Utf8.lossy content)
      | none =>
        "[" ++ String.intercalate ", " (Value.form annotate item :: Value.forms false rest) ++ "]"
  | .dictionary key value entries =>
    match entries with
    | [] =>
      (if annotate then "@" ++ (Ty.dictionary key value).signature ++ " " else "") ++ "\x7b\x7d"
    | (key, value) :: rest =>
      "\x7b" ++ String.intercalate ", "
        ((Value.form annotate key ++ ": " ++ Value.form annotate value) :: Value.entryForms rest)
        ++ "\x7d"
  | .struct fields =>
    match fields with
    | [field] => "(" ++ Value.form annotate field ++ ",)"
    | fields => "(" ++ String.intercalate ", " (Value.forms annotate fields) ++ ")"

/-- The text forms of values, all annotated or none. -/
def Value.forms (annotate : Bool) : List Value → List String
  | [] => []
  | value :: rest => Value.form annotate value :: Value.forms annotate rest

/-- The text forms of entries that are not the first. -/
def Value.entryForms : List (Value × Value) → List String
  | [] => []
  | (key, value) :: rest =>
    (Value.form false key ++ ": " ++ Value.form false value) :: Value.entryForms rest

end

def Value.bare : Value → String
  | .scalar value => value.bare
  | .variant content => content.bare
  | container => container.form true

def Value.render (value : Value) : String :=
  value.normal.bare

end SessionProbe.Wire
