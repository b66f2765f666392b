import SessionProbe.Name.Fault

set_option autoImplicit false

/-!
Names made of elements between dots: unique names, well-known names, the two together as bus
names, and interface names. A dot may end each of them.
-/

namespace SessionProbe.Name

/-- What may stand between the dots of a name. -/
structure Alphabet where
  allows : Char → Bool
  digitFirst : Bool

/-- Check the rest of a name. `atStart` says that an element starts here, where no dot may stand,
and `dotted` that there was a dot before. -/
def Alphabet.check (alphabet : Alphabet) : (atStart dotted : Bool) → List Char → Except Fault Unit
  | _, dotted, [] => if dotted then .ok () else .error .noDot
  | atStart, dotted, c :: rest =>
    if c = '.' then
      if atStart then .error .doubledDot else alphabet.check true true rest
    else if atStart && c.isDigit && !alphabet.digitFirst then
      .error .elementDigit
    else if alphabet.allows c then
      alphabet.check false dotted rest
    else
      .error (.strange c)

/-- The name of the bus daemon. It has no colon in front and counts as unique. -/
def daemon : String := "org.freedesktop.DBus"

/-- Check a unique name: a colon, then elements that may start with digits. The first may be
empty. -/
def checkUnique (name : String) : Except Fault Unit :=
  if name.isEmpty then .error (.empty 4)
  else if maximumLength < Text.Utf8.size name then .error (.long name)
  else if name = daemon then .ok ()
  else
    match name.toList with
    | ':' :: rest => Alphabet.check ⟨isHyphenatedChar, true⟩ false false rest
    | _ => .error .noColon

/-- The least length of a name that holds a dot. -/
def dottedLength : Nat := 3

def checkWellKnown (name : String) : Except Fault Unit :=
  if name.isEmpty then .error (.empty dottedLength)
  else if Text.Utf8.size name < dottedLength then .error (.short name dottedLength)
  else if maximumLength < Text.Utf8.size name then .error (.long name)
  else Alphabet.check ⟨isHyphenatedChar, false⟩ true false name.toList

/-- Check an interface name: a well-known name without hyphens. -/
def checkInterface (name : String) : Except Fault Unit :=
  if Text.Utf8.size name < dottedLength then .error (.short name dottedLength)
  else if maximumLength < Text.Utf8.size name then .error (.long name)
  else Alphabet.check ⟨isWordChar, false⟩ true false name.toList

def checkMember (name : String) : Except Fault Unit :=
  if name.isEmpty then .error (.short name 1)
  else if maximumLength < Text.Utf8.size name then .error (.long name)
  else
    match name.toList with
    | [] => .ok ()
    | first :: _ =>
      if first.isDigit then .error .leadingDigit
      else
        match name.toList.find? (fun c => !isWordChar c) with
        | some c => .error (.strange c)
        | none => .ok ()

/-- Why a text is no bus name: it has neither form. -/
structure BusFault where
  unique : Fault
  wellKnown : Fault
deriving Repr, DecidableEq

def BusFault.message (fault : BusFault) : String :=
  s!"Neither a valid unique ({fault.unique.message}) "
    ++ s!"nor a well-known ({fault.wellKnown.message}) bus name"

/-- Check a bus name: a unique or a well-known name. -/
def checkBus (name : String) : Except BusFault Unit :=
  match checkUnique name with
  | .ok () => .ok ()
  | .error unique =>
    match checkWellKnown name with
    | .ok () => .ok ()
    | .error wellKnown => .error { unique, wellKnown }

end SessionProbe.Name
