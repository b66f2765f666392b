import SessionProbe.Json.Scan

set_option autoImplicit false

/-!
Reading numbers. Whole numbers stay whole as long as they fit 64 bits. Other numbers become
doubles in a few steps, each rounded: the leading digits, then a power of ten.
-/

namespace SessionProbe.Json

open Decimal (Binary64)

inductive Number
  | integer (value : Int)
  | double (value : Binary64)
deriving Repr, DecidableEq

def Number.toFound : Number → Found
  | .integer value => .integer value
  | .double value => .double value

def digitValue (c : Char) : Nat := c.toNat - '0'.toNat

def digits : Scan (List Char) := do
  let rest ← get
  skipWhile Char.isDigit
  return rest.text.takeWhile Char.isDigit

/-- Append digits to a number as long as it does not exceed a limit, and tell which are left. -/
def appendDigits (limit : Nat) : (n : Nat) → List Char → Nat × List Char
  | n, [] => (n, [])
  | n, c :: rest =>
    let next := 10 * n + digitValue c
    if limit < next then (n, c :: rest) else appendDigits limit next rest

def significandLimit : Nat := Nat.pow 2 64 - 1

/-- The greatest exponent that is kept. -/
def exponentLimit : Nat := Nat.pow 2 31 - 1

/-- The greatest power of ten that is a double is `10 ^ powerLimit`. -/
def powerLimit : Nat := 308

/-- A double times a power of ten, or divided by one. The power is rounded first, the result
after. -/
def scaled (x : Binary64) (exponent : Int) : Option Binary64 := do
  let power ← Binary64.ofRatio false (Nat.pow 10 exponent.natAbs) 1
  let (m, u) := x.toRatio
  let (n, v) := power.toRatio
  if 0 ≤ exponent then Binary64.ofRatio false (m * n) (u * v)
  else Binary64.ofRatio false (m * v) (u * n)

/-- Scale by a power of ten that may be too small for one step. Three steps lead to zero. -/
def scaledDown : (steps : Nat) → Binary64 → (exponent : Int) → Option Binary64
  | 0, x, _ => some x
  | steps + 1, x, exponent =>
    if exponent.natAbs ≤ powerLimit then scaled x exponent
    else if x.magnitude = 0 then some x
    else if 0 ≤ exponent then none
    else do
      let x ← scaled x (-(powerLimit : Int))
      scaledDown steps x (exponent + powerLimit)

/-- The double `significand * 10 ^ exponent`, with its sign; none when it is too great. -/
def double? (negative : Bool) (significand : Nat) (exponent : Int) : Option Binary64 := do
  let x ← Binary64.ofRatio false significand 1
  let x ← scaledDown 4 x exponent
  return if negative then ⟨x.bits + 0x8000000000000000⟩ else x

/-- Finish a number that is no whole number of 64 bits. -/
def finishDouble (negative : Bool) (significand : Nat) (exponent : Int) : Scan Number := do
  match double? negative significand exponent with
  | some x => return .double x
  | none => failHere .numberOutOfRange

/-- Read the exponent of a number, from its `e` on. -/
def exponentPart (negative : Bool) (significand : Nat) (scale : Int) : Scan Number := do
  skip
  let sign ← peek
  if sign = some '+' ∨ sign = some '-' then
    skip
  match ← peek with
  | none => fail .endInValue
  | some c =>
    if !c.isDigit then
      fail .invalidNumber
    else
      let start ← get
      let all ← digits
      match appendDigits exponentLimit 0 all with
      | (exponent, []) =>
        let exponent : Int := if sign = some '-' then -exponent else exponent
        finishDouble negative significand (scale + exponent)
      | (_, excess) =>
        if significand ≠ 0 ∧ sign ≠ some '-' then
          let place := start.place + (all.length - excess.length) + 1
          throw { problem := .numberOutOfRange, place }
        else
          finishDouble negative 0 0

def optionalExponent (negative : Bool) (significand : Nat) (scale : Int) : Scan Number := do
  match ← peek with
  | some 'e' | some 'E' => exponentPart negative significand scale
  | _ => finishDouble negative significand scale

/-- Read the fraction of a number, from its point on. Digits beyond 64 bits count for nothing. -/
def fractionPart (negative : Bool) (significand : Nat) (scale : Int) : Scan Number := do
  skip
  let all ← digits
  if all.isEmpty then
    match ← peek with
    | none => fail .endInValue
    | some _ => fail .invalidNumber
  else
    let (significand, excess) := appendDigits significandLimit significand all
    optionalExponent negative significand (scale - (all.length - excess.length : Nat))

/-- Finish a number of whole digits, of which `excess` exceed 64 bits. -/
def finishInteger (negative : Bool) (significand excess : Nat) : Scan Number := do
  if excess ≠ 0 then
    finishDouble negative significand excess
  else if !negative then
    return .integer significand
  else if significand = 0 ∨ Nat.pow 2 63 < significand then
    finishDouble true significand 0
  else
    return .integer (-significand)

/-- Read a number, behind its sign. -/
def number (negative : Bool) : Scan Number := do
  match ← peek with
  | none => fail .endInValue
  | some c =>
    if !c.isDigit then
      fail .invalidNumber
    else
      let all ←
        if c = '0' then do
          skip
          match ← peek with
          | some next => if next.isDigit then fail .invalidNumber else pure ['0']
          | none => pure ['0']
        else
          digits
      let (significand, excess) := appendDigits significandLimit 0 all
      match ← peek with
      | some '.' => fractionPart negative significand excess.length
      | some 'e' | some 'E' => exponentPart negative significand excess.length
      | _ => finishInteger negative significand excess.length

end SessionProbe.Json
