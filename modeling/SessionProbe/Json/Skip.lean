import SessionProbe.Json.Scan

set_option autoImplicit false

/-!
Going past a value of which only the form counts. Escaped surrogates need no partner here, and a
number may be of any size.
-/

namespace SessionProbe.Json

def skipEscape : Scan Unit := do
  match ← peek with
  | none => fail .endInString
  | some c =>
    if c = 'u' then
      skip
      let _ ← hexEscape
    else if (shortEscape? c).isSome then
      skip
    else
      fail .invalidEscape

/-- Go past a string, behind its first quote. Each step takes a character. -/
def skipStringRest : (fuel : Nat) → Scan Unit
  | 0 => fail .endInString
  | fuel + 1 => do
    match ← peek with
    | none => fail .endInString
    | some c =>
      if c = '"' then
        skip
      else if c = '\\' then
        skip
        skipEscape
        skipStringRest fuel
      else if isControl c then
        failHere .controlCharacter
      else
        skip
        skipStringRest fuel

def skipString : Scan Unit := do
  let rest ← get
  skipStringRest (rest.text.length + 1)

/-- Go past the digits of a number, of which there has to be one. -/
def skipDigits : Scan Unit := do
  match ← peek with
  | some c => if c.isDigit then skipWhile Char.isDigit else fail .invalidNumber
  | none => fail .invalidNumber

def skipExponent : Scan Unit := do
  match ← peek with
  | some 'e' | some 'E' =>
    skip
    match ← peek with
    | some '+' | some '-' =>
      skip
      skipDigits
    | _ => skipDigits
  | _ => return ()

def skipNumber : Scan Unit := do
  match ← peek with
  | some '0' =>
    skip
    match ← peek with
    | some c => if c.isDigit then fail .invalidNumber
    | none => pure ()
  | _ => skipDigits
  match ← peek with
  | some '.' =>
    skip
    skipDigits
    skipExponent
  | _ => skipExponent

/-- Go past the key of a member and its colon. -/
def skipKey : Scan Unit := do
  match ← peekPastBlanks with
  | none => fail .endInObject
  | some '"' =>
    skip
    skipString
    match ← peekPastBlanks with
    | none => fail .endInObject
    | some ':' => skip
    | some _ => fail .expectedColon
  | some _ => fail .keyNotString

mutual

def skipValueWith : (fuel : Nat) → Scan Unit
  | 0 => fail .expectedValue
  | fuel + 1 => do
    match ← peekPastBlanks with
    | none => fail .endInValue
    | some c =>
      match c with
      | 'n' =>
        skip
        word ['u', 'l', 'l']
      | 't' =>
        skip
        word ['r', 'u', 'e']
      | 'f' =>
        skip
        word ['a', 'l', 's', 'e']
      | '-' =>
        skip
        skipNumber
      | '"' =>
        skip
        skipString
      | '[' =>
        skip
        skipItems fuel true
      | '\x7b' =>
        skip
        skipMembers fuel true
      | _ => if c.isDigit then skipNumber else fail .expectedValue

def skipItems : (fuel : Nat) → (first : Bool) → Scan Unit
  | 0, _ => fail .endInList
  | fuel + 1, first => do
    match ← peekPastBlanks with
    | none => fail .endInList
    | some c =>
      if c = ']' then
        skip
      else if first then
        skipValueWith fuel
        skipItems fuel false
      else if c = ',' then
        skip
        skipValueWith fuel
        skipItems fuel false
      else
        fail .expectedListEnd

def skipMembers : (fuel : Nat) → (first : Bool) → Scan Unit
  | 0, _ => fail .endInObject
  | fuel + 1, first => do
    match ← peekPastBlanks with
    | none => fail .endInObject
    | some c =>
      if c = '\x7d' then
        skip
      else if first then
        skipKey
        skipValueWith fuel
        skipMembers fuel false
      else if c = ',' then
        skip
        skipKey
        skipValueWith fuel
        skipMembers fuel false
      else
        fail .expectedObjectEnd

end

/-- Go past a value. Every other step takes a character, which bounds the steps. -/
def skipValue : Scan Unit := do
  let rest ← get
  skipValueWith (2 * rest.text.length + 2)

end SessionProbe.Json
