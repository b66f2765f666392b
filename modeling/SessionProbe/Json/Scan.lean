import SessionProbe.Json.Fault
import SessionProbe.Text.Hexadecimal

set_option autoImplicit false

/-!
Reading JSON from left to right: blanks, fixed words, strings, and how faults are placed.
-/

namespace SessionProbe.Json

/-- What is left of a text, and the octets read before it. -/
structure Rest where
  text : List Char
  place : Nat
deriving Repr, DecidableEq

abbrev Scan (α : Type) : Type := EStateM Fault Rest α

def peek : Scan (Option Char) := fun rest => .ok rest.text.head? rest

def skip : Scan Unit := fun rest =>
  match rest.text with
  | [] => .ok () rest
  | c :: text => .ok () { text, place := rest.place + c.utf8Size }

/-- A problem with what has been read. -/
def failHere {α : Type} (problem : Problem) : Scan α := fun rest =>
  .error { problem, place := rest.place } rest

/-- A problem with the next octet, which counts as read. -/
def fail {α : Type} (problem : Problem) : Scan α := fun rest =>
  .error { problem, place := if rest.text.isEmpty then rest.place else rest.place + 1 } rest

/-- Blank, tab and the two line ends are what JSON allows between its parts. -/
def isBlank (c : Char) : Bool :=
  c == ' ' || c == '\t' || c == '\n' || c == '\r'

/-- Go past the characters of a class. All of them are ASCII, so each takes one octet. -/
def skipWhile (belongs : Char → Bool) : Scan Unit := fun rest =>
  let passed := rest.text.takeWhile belongs
  .ok () { text := rest.text.dropWhile belongs, place := rest.place + passed.length }

def peekPastBlanks : Scan (Option Char) := do
  skipWhile isBlank
  peek

def word : List Char → Scan Unit
  | [] => return ()
  | c :: rest => do
    match ← peek with
    | none => fail .endInValue
    | some next =>
      if next = c then
        skip
        word rest
      else
        fail .expectedIdentifier

/-- Read the four digits of an escape. They are taken as four octets before they are looked at. -/
def hexEscape : Scan Nat := fun rest =>
  match Text.hexNumber? (rest.text.take 4) with
  | some n =>
    if 4 ≤ rest.text.length then
      .ok n { text := rest.text.drop 4, place := rest.place + 4 }
    else
      .error { problem := .endInString, place := rest.place + rest.text.length } rest
  | none =>
    let octets := Text.Utf8.size (String.ofList rest.text)
    if 4 ≤ octets then .error { problem := .invalidEscape, place := rest.place + 4 } rest
    else .error { problem := .endInString, place := rest.place + octets } rest

/-- Whether a number is the first half of a character outside the basic plane. -/
def isLeadingSurrogate (n : Nat) : Bool := 0xD800 ≤ n && n ≤ 0xDBFF

/-- Whether a number is the second half of a character outside the basic plane. -/
def isTrailingSurrogate (n : Nat) : Bool := 0xDC00 ≤ n && n ≤ 0xDFFF

/-- Go past a character that has to follow the first half of a character. -/
def secondHalf (c : Char) : Scan Unit := do
  match ← peek with
  | none => fail .endInString
  | some next => if next = c then skip else fail .unfinishedSurrogate

def unicodeEscape : Scan Char := do
  let first ← hexEscape
  if isTrailingSurrogate first then
    failHere .loneSurrogate
  else if isLeadingSurrogate first then
    secondHalf '\\'
    secondHalf 'u'
    let second ← hexEscape
    if isTrailingSurrogate second then
      return Char.ofNat ((first - 0xD800) * 0x400 + (second - 0xDC00) + 0x10000)
    else
      failHere .loneSurrogate
  else
    return Char.ofNat first

/-- The character that a letter stands for behind a backslash. -/
def shortEscape? : Char → Option Char
  | '"' => some '"'
  | '\\' => some '\\'
  | '/' => some '/'
  | 'b' => some '\x08'
  | 'f' => some '\x0c'
  | 'n' => some '\n'
  | 'r' => some '\r'
  | 't' => some '\t'
  | _ => none

def escape : Scan Char := do
  match ← peek with
  | none => fail .endInString
  | some c =>
    if c = 'u' then
      skip
      unicodeEscape
    else
      match shortEscape? c with
      | some meant =>
        skip
        return meant
      | none => fail .invalidEscape

/-- Whether a character may stand in a string only as an escape. -/
def isControl (c : Char) : Bool := c.toNat < 0x20

/-- Read a string, behind its first quote. Each step takes a character. -/
def stringRest : (fuel : Nat) → Scan (List Char)
  | 0 => fail .endInString
  | fuel + 1 => do
    match ← peek with
    | none => fail .endInString
    | some c =>
      if c = '"' then
        skip
        return []
      else if c = '\\' then
        skip
        let meant ← escape
        return meant :: (← stringRest fuel)
      else if isControl c then
        fail .controlCharacter
      else
        skip
        return c :: (← stringRest fuel)

def string : Scan String := do
  let rest ← get
  return String.ofList (← stringRest (rest.text.length + 1))

end SessionProbe.Json
