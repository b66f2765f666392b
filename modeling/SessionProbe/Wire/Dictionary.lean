import SessionProbe.Wire.Value

set_option autoImplicit false

/-!
Dictionaries in key order. `Value.sortKey` turns a value into a list of numbers so that values
of one type are ordered as these lists are; `Value.normal` sorts the entries of every dictionary
in a value by their keys and merges entries of equal keys.
-/

namespace SessionProbe.Wire

/-- Ends a list inside a sort key. It lies below every other part, so that the beginning of a list
comes before the list. -/
def Scalar.listEnd : Int := -1

/-- The numbers by which a text is ordered: by characters, which is also the order of its octets. -/
def Scalar.textKey (text : String) : List Int :=
  text.toList.map (fun c => (c.toNat : Int)) ++ [Scalar.listEnd]

/-- The numbers by which scalars of one type are ordered. Doubles go by rank. -/
def Scalar.sortKey : Scalar → List Int
  | .byte value => [value.toNat]
  | .boolean value => [if value then 1 else 0]
  | .int16 value => [value.toInt]
  | .uint16 value => [value.toNat]
  | .int32 value => [value.toInt]
  | .uint32 value => [value.toNat]
  | .int64 value => [value.toInt]
  | .uint64 value => [value.toNat]
  | .double value => [value.rank]
  | .string value => Scalar.textKey value
  | .objectPath value => Scalar.textKey value
  | .signature value => Scalar.textKey value

/-- The place of a basic type in the order of values that differ in type. -/
def Basic.place : Basic → Int
  | .byte => 0
  | .boolean => 1
  | .int16 => 2
  | .uint16 => 3
  | .int32 => 4
  | .uint32 => 5
  | .int64 => 6
  | .uint64 => 7
  | .double => 8
  | .string => 9
  | .signature => 10
  | .objectPath => 11
  | .handle => 16

mutual

/-- The numbers by which values are ordered: by kind, then by content. -/
def Value.sortKey : Value → List Int
  | .scalar value => value.kind.place :: value.sortKey
  | .variant content => 12 :: content.sortKey
  | .array element items => 13 :: Scalar.textKey element.signature ++ Value.sortKeys items
  | .dictionary key value entries =>
    14 :: Value.entrySortKeys entries ++ Scalar.textKey key.signature ++
      Scalar.textKey value.signature
  | .struct fields => 15 :: Value.sortKeys fields

def Value.sortKeys : List Value → List Int
  | [] => [Scalar.listEnd]
  | value :: rest => value.sortKey ++ Value.sortKeys rest

def Value.entrySortKeys : List (Value × Value) → List Int
  | [] => [Scalar.listEnd]
  | (key, value) :: rest => key.sortKey ++ value.sortKey ++ Value.entrySortKeys rest

end

/-- Put an entry into entries sorted by key. Under an equal key, the key in place stays and its
value gives way. -/
def insertEntry (key value : Value) : List (Value × Value) → List (Value × Value)
  | [] => [(key, value)]
  | (key', value') :: rest =>
    match compare key.sortKey key'.sortKey with
    | .lt => (key, value) :: (key', value') :: rest
    | .eq => (key', value) :: rest
    | .gt => (key', value') :: insertEntry key value rest

/-- Sort entries by key: of entries with equal keys the first key and the last value stay. -/
def sortEntries (entries : List (Value × Value)) : List (Value × Value) :=
  entries.foldl (fun sorted entry => insertEntry entry.1 entry.2 sorted) []

mutual

/-- The value with every dictionary in it sorted. -/
def Value.normal : Value → Value
  | .scalar value => .scalar value
  | .variant content => .variant content.normal
  | .array element items => .array element (Value.normals items)
  | .dictionary key value entries =>
    .dictionary key value (sortEntries (Value.normalEntries entries))
  | .struct fields => .struct (Value.normals fields)

def Value.normals : List Value → List Value
  | [] => []
  | value :: rest => value.normal :: Value.normals rest

def Value.normalEntries : List (Value × Value) → List (Value × Value)
  | [] => []
  | (key, value) :: rest => (key.normal, value.normal) :: Value.normalEntries rest

end

end SessionProbe.Wire
