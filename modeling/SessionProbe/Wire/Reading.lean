import SessionProbe.Wire.Slice

set_option autoImplicit false

/-!
Reading values of given types. At most 32 structs, 32 arrays or dictionaries, and 64 containers
of any kind lie inside each other; a chain of variants, whose depth no signature shows, is cut
off by the last limit.
-/

namespace SessionProbe.Wire

/-- How many structs and how many arrays lie around what is being read. -/
structure Nesting where
  structs : Nat
  arrays : Nat
deriving Repr, DecidableEq

def Nesting.intoStruct (nesting : Nesting) : Except Fault Nesting :=
  if nesting.structs < Container.struct.limit then
    .ok { nesting with structs := nesting.structs + 1 }
  else
    .error (.tooDeep .struct)

def Nesting.intoArray (nesting : Nesting) : Except Fault Nesting :=
  if nesting.arrays < Container.array.limit then
    .ok { nesting with arrays := nesting.arrays + 1 }
  else
    .error (.tooDeep .array)

/-- Read a value. `room` is the number of containers that may still be entered. -/
def Slice.value : (room : Nat) → (nesting : Nesting) → (slice : Slice) → Ty → Reader Value
  | _, _, slice, .basic kind => return .scalar (← slice.scalar kind)
  | room, nesting, slice, .variant => do
    let text ← slice.signatureText
    let types ← MonadExcept.ofExcept ((Ty.ofSignature text).mapError .signature)
    let position ← get
    if slice.stop < position then
      throw .outOfBounds
    match room with
    | 0 => throw (.tooDeep .any)
    | room + 1 =>
      match types with
      | [] => throw .outOfBounds
      | ty :: _ => return .variant (← Slice.value room nesting ⟨slice.body, position⟩ ty)
  | room, nesting, slice, .array element => do
    slice.pad 4
    let nesting ← MonadExcept.ofExcept nesting.intoArray
    match room with
    | 0 => throw (.tooDeep .any)
    | room + 1 =>
      let length ← slice.number 4
      slice.pad element.alignment
      let start ← get
      let item : Reader Value := do
        slice.pad element.alignment
        slice.element start length fun part => Slice.value room nesting part element
      return .array element (← Reader.upTo (start + length) item length)
  | room, nesting, slice, .dictionary key value => do
    slice.pad 4
    let nesting ← MonadExcept.ofExcept nesting.intoArray
    match room with
    | 0 => throw (.tooDeep .any)
    | room + 1 =>
      let length ← slice.number 4
      slice.pad 8
      let start ← get
      let entry : Reader (Value × Value) := do
        slice.pad 8
        let key ← slice.element start length fun part => Slice.value room nesting part key
        let value ← slice.element start length fun part => Slice.value room nesting part value
        return (key, value)
      return .dictionary key value (← Reader.upTo (start + length) entry length)
  | _, _, _, .entry _ _ => throw (.signature (.strange '\x7b'))
  | room, nesting, slice, .struct fields => do
    slice.pad 8
    let nesting ← MonadExcept.ofExcept nesting.intoStruct
    match room with
    | 0 => throw (.tooDeep .any)
    | room + 1 => return .struct (← Reader.each (Slice.value room nesting slice) fields)

/-- The values of a body, one per type. The body as a whole is a struct of them. -/
def Body.values (body : Body) (types : List Ty) : Except Fault (List Value) :=
  let slice : Slice := ⟨body, 0⟩
  let room := Container.any.limit - 1
  match Reader.each (Slice.value room { structs := 1, arrays := 0 } slice) types 0 with
  | .ok values _ => .ok values
  | .error fault _ => .error fault

def Body.text (body : Body) : Except Fault String :=
  match Slice.text ⟨body, 0⟩ 0 with
  | .ok text _ => .ok text
  | .error fault _ => .error fault

/-- The unsigned number of four octets that a body starts with. -/
def Body.number (body : Body) : Except Fault Nat :=
  match Slice.number ⟨body, 0⟩ 4 0 with
  | .ok number _ => .ok number
  | .error fault _ => .error fault

end SessionProbe.Wire
