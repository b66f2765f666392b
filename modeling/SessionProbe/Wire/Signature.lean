import SessionProbe.Text.Utf8
import SessionProbe.Wire.Ty

set_option autoImplicit false

/-!
Reading signatures. A signature is read octet by octet from left to right and the first fault
ends the reading; lengths in the faults count from the fault's place to the end.
-/

namespace SessionProbe.Wire

inductive SignatureFault
  | strange (c : Char)
  /-- The signature ends where a type has to start. -/
  | ended
  /-- Fewer characters are left than a container takes. -/
  | short (left least : Nat)
  | emptyStruct
  | unclosedStruct
  /-- The key of a dictionary takes more than one character. -/
  | longKey (length : Nat)
  | unclosedEntry
deriving Repr, DecidableEq

def SignatureFault.message : SignatureFault → String
  | .strange c => s!"invalid value: character `{c}`, expected a valid signature character"
  | .ended => "invalid length 0, expected >= 1 character"
  | .short left least => s!"invalid length {left}, expected >= {least} characters"
  | .emptyStruct =>
    "invalid value: string \"()\", expected at least one field signature between `(` and `)`"
  | .unclosedStruct => "Out of bounds range specified"
  | .longKey length =>
    s!"invalid length {length}, expected dict-entry key's signature can only be a single character"
  | .unclosedEntry => "invalid value: character `\x7b`, expected \x7d"

/-- The type of an array; an array of entries is a dictionary. -/
def Ty.arrayOf : Ty → Ty
  | .entry key value => .dictionary key value
  | element => .array element

mutual

/-- Read one complete type from the front. -/
def Ty.readOne : (fuel : Nat) → List Char → Except SignatureFault (Ty × List Char)
  | 0, _ => .error .ended
  | _, [] => .error .ended
  | fuel + 1, c :: rest =>
    match Basic.ofCode? c with
    | some kind => .ok (.basic kind, rest)
    | none =>
      match c with
      | 'v' => .ok (.variant, rest)
      | 'a' =>
        if rest.isEmpty then .error (.short 1 2)
        else do
          let (element, rest) ← Ty.readOne fuel rest
          return (Ty.arrayOf element, rest)
      | '(' =>
        if rest.length < 2 then .error (.short (rest.length + 1) 2)
        else do
          let (fields, rest) ← Ty.readFields fuel rest
          if fields.isEmpty then .error .emptyStruct
          return (.struct fields, rest)
      | '\x7b' =>
        if rest.length < 3 then .error (.short (rest.length + 1) 4)
        else do
          let (key, afterKey) ← Ty.readOne fuel rest
          let keyLength := rest.length - afterKey.length
          if keyLength ≠ 1 then .error (.longKey keyLength)
          let (value, afterValue) ← Ty.readOne fuel afterKey
          match afterValue with
          | [] => .error (.short (rest.length + 1) (rest.length + 2))
          | '\x7d' :: rest => return (.entry key value, rest)
          | _ => .error .unclosedEntry
      | _ => .error (.strange c)

/-- Read the fields of a struct and its closing parenthesis. -/
def Ty.readFields : (fuel : Nat) → List Char → Except SignatureFault (List Ty × List Char)
  | 0, _ => .error .unclosedStruct
  | _, [] => .error .unclosedStruct
  | fuel + 1, c :: rest =>
    if c = ')' then .ok ([], rest)
    else do
      let (field, rest) ← Ty.readOne fuel (c :: rest)
      let (fields, rest) ← Ty.readFields fuel rest
      return (field :: fields, rest)

end

def Ty.readAll : (fuel : Nat) → List Char → Except SignatureFault (List Ty)
  | _, [] => .ok []
  | 0, _ => .error .ended
  | fuel + 1, text => do
    let (ty, rest) ← Ty.readOne fuel text
    let types ← Ty.readAll fuel rest
    return ty :: types

/-- The complete types of a signature. Each step of the reading takes a character or starts a
field, so twice the length bounds the number of nested steps. -/
def Ty.ofSignature (text : String) : Except SignatureFault (List Ty) :=
  let octets := Text.Utf8.octets text
  Ty.readAll (2 * octets.length + 2) octets

end SessionProbe.Wire
