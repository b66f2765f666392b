import SessionProbe.Journal.Directive

set_option autoImplicit false

/-!
Which entries the log shows. A filter is a list of directives between commas. Of the directives for
a target the one with the longest text decides.
-/

namespace SessionProbe.Journal

structure Filter where
  directives : List Directive
deriving Repr, DecidableEq

/-- The texts between the commas, less the empty ones. -/
def Filter.texts (text : String) : List (List Char) :=
  (text.toList.splitOn ',').filter fun part => !part.isEmpty

/-- The filter of a text in which every directive can be read. The first that cannot decides what
comes of it. -/
def Filter.parse (check : ValueCheck) (text : String) : Except Mishap Filter := do
  return { directives := ← (Filter.texts text).mapM (Directive.parse check) }

/-- A filter with complaints; no filter if the program crashed over it. -/
structure Filter.Choice where
  filter : Option Filter
  complaints : List String
deriving Repr, DecidableEq

def Filter.complaint (text : List Char) (fault : DirectiveFault) : String :=
  s!"ignoring `{String.ofList text}`: {fault.message}"

/-- The filter of the directives that can be read, and a complaint about each other. -/
def Filter.readable (check : ValueCheck) : List (List Char) → Filter.Choice
  | [] => { filter := some { directives := [] }, complaints := [] }
  | text :: rest =>
    match Directive.parse check text with
    | .ok directive =>
      let choice := Filter.readable check rest
      { choice with filter := choice.filter.map fun filter =>
          { directives := directive :: filter.directives } }
    | .error (.refused fault) =>
      let choice := Filter.readable check rest
      { choice with complaints := Filter.complaint text fault :: choice.complaints }
    | .error .crash => { filter := none, complaints := [] }

/-- A directive that asks for a span, or for the value of a field, is for what happens inside spans
only. No entry of the program is written inside a span. -/
def Directive.isForSpans (directive : Directive) : Bool :=
  directive.span.isSome || directive.field.any (·.value.isSome)

/-- The one field that every entry has. -/
def entryField : String := "message"

def Directive.covers (directive : Directive) (target : String) : Bool :=
  !directive.isForSpans &&
    directive.target.all (fun start => start.toList.isPrefixOf target.toList) &&
    directive.field.all (·.name == entryField)

/-- How closely a directive tells its targets: by the length of their text first, and then by a
field. -/
def Directive.reach (directive : Directive) : Nat :=
  let target :=
    match directive.target with
    | none => 0
    | some start => start.length + 1
  2 * target + (if directive.field.isSome then 1 else 0)

/-- The directive that decides about a target: of those for it the closest, the last if there are
several. -/
def Filter.deciding? (filter : Filter) (target : String) : Option Directive :=
  filter.directives.foldl
    (fun best directive =>
      if !directive.covers target then best
      else
        match best with
        | none => some directive
        | some other => if other.reach ≤ directive.reach then some directive else best)
    none

/-- How much is shown of a target. An empty filter shows errors, and any other nothing of a target
that no directive is for. -/
def Filter.threshold (filter : Filter) (target : String) : Threshold :=
  if filter.directives.isEmpty then Level.error.verbosity
  else
    match filter.deciding? target with
    | some directive => directive.threshold
    | none => 0

def Filter.shows (filter : Filter) (entry : Entry) : Bool :=
  entry.level.verbosity ≤ filter.threshold entry.topic.target

/-- The filter that counts: the one of the environment if there is one and none of it is refused,
else the readable part of the one in the settings. -/
def Filter.choose (check : ValueCheck) (environment : Option String) (settings : String) :
    Filter.Choice :=
  match environment.map (Filter.parse check) with
  | some (.ok filter) => { filter := some filter, complaints := [] }
  | some (.error .crash) => { filter := none, complaints := [] }
  | some (.error (.refused _)) | none => Filter.readable check (Filter.texts settings)

end SessionProbe.Journal
