import SessionProbe.Name.Fault

set_option autoImplicit false

/-!
Object paths: the root `/`, or elements each behind a slash. They are checked octet by octet, and
an octet outside ASCII is reported as the character of its number.
-/

namespace SessionProbe.Name

inductive PathFault
  | empty
  | noSlash (octet : Char)
  | doubledSlash
  | trailingSlash
  | strange (octet : Char)
deriving Repr, DecidableEq

def PathFault.message : PathFault → String
  | .empty => "invalid length 0, expected > 0 character"
  | .noSlash octet => s!"invalid value: character `{octet}`, expected /"
  | .doubledSlash => "invalid value: string \"//\", expected /"
  | .trailingSlash => "invalid value: character `/`, expected an alphanumeric character or `_`"
  | .strange octet =>
    s!"invalid value: character `{octet}`, expected an alphanumeric character, `_` or `/`"

/-- Check the rest of a path, which may follow a slash. -/
def checkPathRest : (afterSlash : Bool) → List Char → Except PathFault Unit
  | _, [] => .ok ()
  | afterSlash, octet :: rest =>
    if octet = '/' then
      if afterSlash then .error .doubledSlash
      else if rest.isEmpty then .error .trailingSlash
      else checkPathRest true rest
    else if isWordChar octet then
      checkPathRest false rest
    else
      .error (.strange octet)

def checkPath (path : String) : Except PathFault Unit :=
  match Text.Utf8.octets path with
  | [] => .error .empty
  | octet :: rest => if octet = '/' then checkPathRest true rest else .error (.noSlash octet)

end SessionProbe.Name
