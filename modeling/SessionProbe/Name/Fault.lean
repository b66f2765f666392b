import SessionProbe.Text.Utf8

set_option autoImplicit false

/-!
Why a text is no name on the bus. Lengths count octets, whatever the wording says.
-/

namespace SessionProbe.Name

/-- The greatest length of a name. Only object paths may be longer. -/
def maximumLength : Nat := 255

/-- Why a text is no unique name, well-known name, interface name or member name. -/
inductive Fault
  | empty (least : Nat)
  | short (name : String) (least : Nat)
  | long (name : String)
  | noColon
  | doubledDot
  | elementDigit
  | leadingDigit
  | strange (c : Char)
  | noDot
deriving Repr, DecidableEq

def Fault.message : Fault → String
  | .empty least => s!"must contain at least {least} characters"
  | .short name least =>
    s!"`{name}` is {Text.Utf8.size name} characters long, "
      ++ s!"which is smaller than minimum allowed ({least})"
  | .long name =>
    s!"`{name}` is {Text.Utf8.size name} characters long, "
      ++ s!"which is longer than maximum allowed ({maximumLength})"
  | .noColon => "must start with a `:`"
  | .doubledDot => "must not contain a double `.`"
  | .elementDigit => "each element must not start with a digit"
  | .leadingDigit => "must not start with a digit"
  | .strange c => s!"`{c}` character not allowed"
  | .noDot => "must contain at least 1 `.`"

def isWordChar (c : Char) : Bool :=
  c.isAlphanum || c == '_'

def isHyphenatedChar (c : Char) : Bool :=
  isWordChar c || c == '-'

end SessionProbe.Name
