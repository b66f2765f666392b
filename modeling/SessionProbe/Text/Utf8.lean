set_option autoImplicit false

/-!
Text as octets. `encode` writes a text in UTF-8, `decode` reads octets back and says where
and how they fail, and `lossy` puts U+FFFD in the place of every broken stretch. The reader
takes one octet at a time: between two octets it holds the part of a character read so far.
-/

namespace SessionProbe.Text.Utf8

def encodeChar (c : Char) : List UInt8 :=
  let n := c.toNat
  if n < 0x80 then
    [n.toUInt8]
  else if n < 0x800 then
    [(0xC0 + n / 64).toUInt8, (0x80 + n % 64).toUInt8]
  else if n < 0x10000 then
    [(0xE0 + n / 4096).toUInt8, (0x80 + n / 64 % 64).toUInt8, (0x80 + n % 64).toUInt8]
  else
    [(0xF0 + n / 262144).toUInt8, (0x80 + n / 4096 % 64).toUInt8,
      (0x80 + n / 64 % 64).toUInt8, (0x80 + n % 64).toUInt8]

def encode (text : String) : List UInt8 :=
  text.toList.flatMap encodeChar

def size (text : String) : Nat :=
  (encode text).length

/-- The octets of a text, each as the character of its number. -/
def octets (text : String) : List Char :=
  (encode text).map fun octet => Char.ofNat octet.toNat

/-- A character of which `taken` octets are read and `missing` octets are not. The next one has
to lie between `low` and `high`: the bounds keep out overlong forms, surrogates and numbers
above U+10FFFF. -/
structure Unfinished where
  missing : Nat
  taken : Nat
  value : Nat
  low : Nat := 0x80
  high : Nat := 0xBF
deriving Repr, DecidableEq

/-- What one more octet makes of the character being read. -/
inductive Outcome
  | finished (c : Char)
  | unfinished (part : Unfinished)
  | refused
deriving Repr, DecidableEq

def lead (octet : UInt8) : Outcome :=
  let n := octet.toNat
  if n < 0x80 then .finished (Char.ofNat n)
  else if n < 0xC2 then .refused
  else if n < 0xE0 then .unfinished { missing := 1, taken := 1, value := n - 0xC0 }
  else if n = 0xE0 then .unfinished { missing := 2, taken := 1, value := 0, low := 0xA0 }
  else if n = 0xED then .unfinished { missing := 2, taken := 1, value := 13, high := 0x9F }
  else if n < 0xF0 then .unfinished { missing := 2, taken := 1, value := n - 0xE0 }
  else if n = 0xF0 then .unfinished { missing := 3, taken := 1, value := 0, low := 0x90 }
  else if n < 0xF4 then .unfinished { missing := 3, taken := 1, value := n - 0xF0 }
  else if n = 0xF4 then .unfinished { missing := 3, taken := 1, value := 4, high := 0x8F }
  else .refused

def Unfinished.resume (part : Unfinished) (octet : UInt8) : Outcome :=
  let n := octet.toNat
  if n < part.low ∨ part.high < n then
    .refused
  else
    let value := part.value * 64 + n % 64
    if part.missing ≤ 1 then
      .finished (Char.ofNat value)
    else
      .unfinished { missing := part.missing - 1, taken := part.taken + 1, value }

/-- Why octets are no text. -/
inductive Fault
  /-- The `length` octets from `index` on start no character. -/
  | invalid (length index : Nat)
  /-- The octets end inside the character that starts at `index`. -/
  | incomplete (index : Nat)
deriving Repr, DecidableEq

def Fault.message : Fault → String
  | .invalid length index => s!"invalid utf-8 sequence of {length} bytes from index {index}"
  | .incomplete index => s!"incomplete utf-8 byte sequence from index {index}"

/-- Read the octets from `index` on, inside the character `part` if there is one. -/
def decodeFrom :
    (index : Nat) → (part : Option Unfinished) → List UInt8 → Except Fault (List Char)
  | _, none, [] => .ok []
  | index, some part, [] => .error (.incomplete (index - part.taken))
  | index, none, octet :: rest =>
    match lead octet with
    | .finished c => (c :: ·) <$> decodeFrom (index + 1) none rest
    | .unfinished part => decodeFrom (index + 1) (some part) rest
    | .refused => .error (.invalid 1 index)
  | index, some part, octet :: rest =>
    match part.resume octet with
    | .finished c => (c :: ·) <$> decodeFrom (index + 1) none rest
    | .unfinished part => decodeFrom (index + 1) (some part) rest
    | .refused => .error (.invalid part.taken (index - part.taken))

/-- The text that the octets spell, or the first place where they fail. -/
def decode (octets : List UInt8) : Except Fault String :=
  String.ofList <$> decodeFrom 0 none octets

/-- The character that stands for a broken stretch of octets. -/
def replacement : Char := '\uFFFD'

/-- Read octets with `replacement` for each longest stretch that starts a character and does not
finish it, and for each octet that starts none. -/
def lossyFrom : (part : Option Unfinished) → List UInt8 → List Char
  | none, [] => []
  | some _, [] => [replacement]
  | none, octet :: rest =>
    match lead octet with
    | .finished c => c :: lossyFrom none rest
    | .unfinished part => lossyFrom (some part) rest
    | .refused => replacement :: lossyFrom none rest
  | some part, octet :: rest =>
    match part.resume octet with
    | .finished c => c :: lossyFrom none rest
    | .unfinished part => lossyFrom (some part) rest
    | .refused =>
      replacement ::
        match lead octet with
        | .finished c => c :: lossyFrom none rest
        | .unfinished part => lossyFrom (some part) rest
        | .refused => replacement :: lossyFrom none rest

/-- The text of octets that need not be a text. -/
def lossy (octets : List UInt8) : String :=
  String.ofList (lossyFrom none octets)

end SessionProbe.Text.Utf8
