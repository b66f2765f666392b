import SessionProbe.Bus.Error

set_option autoImplicit false

/-!
How a failed run is reported: what was attempted, and below it the chain of causes.
-/

namespace SessionProbe

inductive Cause
  | bus (error : Bus.BusError)
  | output (text : String)
deriving Repr, DecidableEq

/-- The texts of a cause and of what lies behind it. -/
def Cause.texts : Cause → List String
  | .bus error => error.message :: error.sources
  | .output text => [text]

structure Failure where
  attempt : String
  cause : Cause
deriving Repr, DecidableEq

/-- All texts of a failure, the outermost first. -/
def Failure.chain (failure : Failure) : List String :=
  failure.attempt :: failure.cause.texts

def lines (text : String) : List String :=
  (text.toList.splitOn '\n').map String.ofList

/-- A text behind a label, its further lines indented to the label's width. -/
def indented (label text : String) : String :=
  let margin := String.ofList (List.replicate label.length ' ')
  label ++ String.intercalate ("\n" ++ margin) (lines text)

/-- A number before a colon, set to the right in five columns. -/
def numberLabel (n : Nat) : String :=
  let digits := toString n
  String.ofList (List.replicate (5 - digits.length) ' ') ++ digits ++ ": "

/-- The causes one below the other, numbered if there are several. -/
def causeLines : List String → List String
  | [cause] => [indented "    " cause]
  | causes => causes.zipIdx.map fun (cause, n) => indented (numberLabel n) cause

def Failure.report (failure : Failure) : String :=
  failure.attempt ++ "\n\nCaused by:\n" ++ String.intercalate "\n" (causeLines failure.cause.texts)

end SessionProbe
