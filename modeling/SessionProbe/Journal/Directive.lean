import SessionProbe.Journal.Entry
import SessionProbe.Text.Alphanumeric
import SessionProbe.Text.Blank
import SessionProbe.Text.Cut
import SessionProbe.Text.Numeral

set_option autoImplicit false

/-!
The directives of a log filter. A directive gives a level for the targets that start with some text,
or for all of them. In square brackets it may name a span, and there, in braces, a field with or
without a value.

The parts of a directive are looked for in the text without the blanks around it, and then cut out
of the text itself at the octets where they were found. Blanks in front thus shift every part. A cut
inside a character crashes the program.
-/

namespace SessionProbe.Journal

/-- How much is shown of a target: the entries of at most this verbosity. -/
abbrev Threshold : Type := Nat

def Threshold.all : Threshold := Level.trace.verbosity

/-- The threshold that a text names: a word in any case, or a number up to five. -/
def Threshold.parse? (text : List Char) : Option Threshold :=
  match Text.unsigned? text with
  | some n => if n ≤ Threshold.all then some n else none
  | none =>
    match String.ofList (text.map Char.toLower) with
    | "off" => some 0
    | "error" => some Level.error.verbosity
    | "warn" => some Level.warn.verbosity
    | "info" => some Level.info.verbosity
    | "debug" => some Level.debug.verbosity
    | "trace" => some Level.trace.verbosity
    | _ => none

/-- What a span or an entry has to carry. -/
structure FieldFilter where
  name : String
  value : Option String
deriving Repr, DecidableEq

structure Directive where
  /-- What the targets start with; without it the directive is for all of them. -/
  target : Option String := none
  span : Option String := none
  field : Option FieldFilter := none
  threshold : Threshold := .all
deriving Repr, DecidableEq

inductive DirectiveFault
  | malformed
  | badLevel
  | badField (problem : String)
deriving Repr, DecidableEq

def DirectiveFault.message : DirectiveFault → String
  | .malformed => "invalid filter directive"
  | .badLevel =>
    "error parsing level filter: expected one of \"off\", \"error\", \"warn\", \"info\", "
      ++ "\"debug\", \"trace\", or a number 0-5"
  | .badField problem => "invalid field filter: " ++ problem

/-- Why a directive is not read: it is refused, or the program crashes. -/
inductive Mishap
  | refused (fault : DirectiveFault)
  | crash
deriving Repr, DecidableEq

/-- Tells what is wrong with a text as the value of a field, if anything is. Values are numbers,
truth values and regular expressions, and the language of the latter lies outside this library. -/
abbrev ValueCheck : Type := String → Option String

/-- A name, and behind an equals sign a value. What a second equals sign brings does not count. -/
def FieldFilter.parse (check : ValueCheck) (text : List Char) : Except Mishap FieldFilter :=
  let name := String.ofList (text.takeWhile (· != '='))
  match text.dropWhile (· != '=') with
  | [] => .ok { name, value := none }
  | _ :: behind =>
    let value := String.ofList (behind.takeWhile (· != '='))
    match check value with
    | none => .ok { name, value := some value }
    | some problem => .error (.refused (.badField problem))

/-- The part of a directive that is being read, with the octet at which it starts. -/
inductive Stage
  | start
  | levelOrTarget (start : Nat)
  | span (start : Nat)
  | field (start : Nat)
  | afterField
  | afterSpan
  | level (start : Nat)
deriving Repr, DecidableEq

/-- Whether a directive may start with a character, other than with a bracket. -/
def startsTarget (c : Char) : Bool :=
  Text.isAlphanumeric c || c == '-' || c == ':' || c == '_'

/-- A directive of which the front is read. -/
structure Draft where
  stage : Stage := .start
  directive : Directive := {}
deriving Repr, DecidableEq

def cutOut : Option (List Char) → Except Mishap (List Char)
  | some part => .ok part
  | none => .error .crash

/-- Read the character at an octet. No comma comes here: it ends a directive. -/
def Draft.step (check : ValueCheck) (text : List Char) (draft : Draft) (index : Nat) (c : Char) :
    Except Mishap Draft :=
  match draft.stage, c with
  | .start, '[' => .ok { draft with stage := .span (index + 1) }
  | .start, _ =>
    if startsTarget c then .ok { draft with stage := .levelOrTarget index }
    else .error (.refused .malformed)
  | .levelOrTarget start, '=' => do
    let target ← cutOut (Text.between? start index text)
    return { stage := .level (index + 1)
             directive := { draft.directive with target := some (String.ofList target) } }
  | .levelOrTarget start, '[' => do
    let target ← cutOut (Text.between? start index text)
    return { stage := .span (index + 1)
             directive := { draft.directive with target := some (String.ofList target) } }
  | .span start, ']' => do
    let span ← cutOut (Text.between? start index text)
    return { stage := .afterSpan
             directive := { draft.directive with span := some (String.ofList span) } }
  | .span start, '\x7b' => do
    let span ← cutOut (Text.between? start index text)
    let named := if span.isEmpty then none else some (String.ofList span)
    return { stage := .field (index + 1), directive := { draft.directive with span := named } }
  | .field start, '\x7d' => do
    let field ← cutOut (Text.between? start index text)
    if field.isEmpty then throw (.refused .malformed)
    let field ← FieldFilter.parse check field
    return { stage := .afterField, directive := { draft.directive with field := some field } }
  | .afterField, ']' => .ok { draft with stage := .afterSpan }
  | .afterSpan, '=' => .ok { draft with stage := .level (index + 1) }
  | .levelOrTarget _, _ | .span _, _ | .field _, _ | .level _, _ => .ok draft
  | .afterField, _ | .afterSpan, _ => .error (.refused .malformed)

/-- Read the characters from an octet on. -/
def Draft.run (check : ValueCheck) (text : List Char) (draft : Draft) :
    (index : Nat) → List Char → Except Mishap Draft
  | _, [] => .ok draft
  | index, c :: rest => do
    let next ← draft.step check text index c
    next.run check text (index + Text.width [c]) rest

/-- Read what is left at the end of the text. A target without a level is shown whole. -/
def Draft.finish (text : List Char) (draft : Draft) : Except Mishap Directive :=
  match draft.stage with
  | .levelOrTarget start => do
    let name ← cutOut (Text.behind? start text)
    match Threshold.parse? name with
    | some threshold => return { draft.directive with threshold }
    | none => return { draft.directive with target := some (String.ofList name) }
  | .level start => do
    let name ← cutOut (Text.behind? start text)
    if name.isEmpty then return draft.directive
    match Threshold.parse? name with
    | some threshold => return { draft.directive with threshold }
    | none => throw (.refused .badLevel)
  | .afterSpan => .ok draft.directive
  | .start | .span _ | .field _ | .afterField => .error (.refused .malformed)

def Directive.parse (check : ValueCheck) (text : List Char) : Except Mishap Directive := do
  let draft ← Draft.run check text {} 0 (Text.trim text)
  draft.finish text

end SessionProbe.Journal
