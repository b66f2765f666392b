import SessionProbe.Decimal.Layout
import SessionProbe.Text.Quoted
import SessionProbe.Text.Utf8

set_option autoImplicit false

/-!
Why a text is no JSON text, or not the one wanted, and where that shows. A place is a number of
octets; told, it becomes a line and the octets of that line up to there.
-/

namespace SessionProbe.Json

open Decimal (Binary64 Layout)

/-- Beside other texts, a double always shows its point or its exponent, and the sign of the
exponent too. -/
def doubleLayout : Layout where
  isPositional place := -5 ≤ place && place ≤ 15
  wholeEnd := ".0"
  plus := "+"
  tie := .toEven

/-- What stands where something else is wanted. -/
inductive Found
  | null
  | boolean (value : Bool)
  | integer (value : Int)
  | double (value : Binary64)
  | string (value : String)
  | sequence
  | map
deriving Repr, DecidableEq

def Found.message : Found → String
  | .null => "null"
  | .boolean value => s!"boolean `{value}`"
  | .integer value => s!"integer `{value}`"
  | .double value => "floating point `" ++ doubleLayout.text value ++ "`"
  | .string value => "string " ++ Text.quoted value
  | .sequence => "sequence"
  | .map => "map"

inductive Problem
  | endInValue
  | endInObject
  | endInList
  | endInString
  | expectedValue
  | expectedIdentifier
  | expectedColon
  | expectedListEnd
  | expectedObjectEnd
  | keyNotString
  | trailingComma
  | trailingCharacters
  | invalidNumber
  | numberOutOfRange
  | invalidEscape
  | loneSurrogate
  | unfinishedSurrogate
  | controlCharacter
  | repeatedField (name : String)
  | unexpected (found : Found) (expected : String)
deriving Repr, DecidableEq

def Problem.message : Problem → String
  | .endInValue => "EOF while parsing a value"
  | .endInObject => "EOF while parsing an object"
  | .endInList => "EOF while parsing a list"
  | .endInString => "EOF while parsing a string"
  | .expectedValue => "expected value"
  | .expectedIdentifier => "expected ident"
  | .expectedColon => "expected `:`"
  | .expectedListEnd => "expected `,` or `]`"
  | .expectedObjectEnd => "expected `,` or `\x7d`"
  | .keyNotString => "key must be a string"
  | .trailingComma => "trailing comma"
  | .trailingCharacters => "trailing characters"
  | .invalidNumber => "invalid number"
  | .numberOutOfRange => "number out of range"
  | .invalidEscape => "invalid escape"
  | .loneSurrogate => "lone leading surrogate in hex escape"
  | .unfinishedSurrogate => "unexpected end of hex escape"
  | .controlCharacter =>
    "control character (\\u0000-\\u001F) found while parsing a string"
  | .repeatedField name => s!"duplicate field `{name}`"
  | .unexpected found expected =>
    "invalid type: " ++ found.message ++ ", expected " ++ expected

/-- What is wrong, and how many octets were read when that was noticed. -/
structure Fault where
  problem : Problem
  place : Nat
deriving Repr, DecidableEq

/-- The line that a number of octets leads into, and how many of them lie in that line. -/
def position (octets : List UInt8) (place : Nat) : Nat × Nat :=
  let before := octets.take place
  (before.count 10 + 1, (before.reverse.takeWhile (· != 10)).length)

/-- The fault of a text, told with its position in that text. -/
def Fault.message (fault : Fault) (text : String) : String :=
  let (line, column) := position (Text.Utf8.encode text) fault.place
  fault.problem.message ++ s!" at line {line} column {column}"

end SessionProbe.Json
