import SessionProbe.Text.Utf8

set_option autoImplicit false

/-!
Where replies are written to: a sink that may run full and may refuse to flush.
-/

namespace SessionProbe

/-- How a full sink meets another octet. -/
inductive FullSink
  | fails (text : String)
  /-- It takes nothing, which makes the writer give up. -/
  | takesNothing
deriving Repr, DecidableEq

structure Sink where
  /-- The number of octets that fit in all, if that is limited. -/
  capacity : Option Nat := none
  full : FullSink := .fails "disk full"
  flushFails : Bool := false
  written : List UInt8 := []
  flushes : Nat := 0
deriving Repr, DecidableEq, Inhabited

/-- How many of some octets still fit. -/
def Sink.fitting (sink : Sink) (octets : List UInt8) : Nat :=
  match sink.capacity with
  | none => octets.length
  | some capacity => capacity - sink.written.length

/-- Offer octets to the sink: how many of them it takes, namely those that fit. -/
def Sink.offer (sink : Sink) (octets : List UInt8) : Except String Nat × Sink :=
  match sink.fitting octets, sink.full with
  | 0, .fails text => (.error text, sink)
  | fitting, _ =>
    let taken := octets.take fitting
    (.ok taken.length, { sink with written := sink.written ++ taken })

/-- Write octets: offer what is left until nothing is, or until the sink takes nothing. -/
def Sink.write (sink : Sink) : List UInt8 → Except String Unit × Sink
  | [] => (.ok (), sink)
  | first :: rest =>
    match sink.offer (first :: rest) with
    | (.error text, sink) => (.error text, sink)
    | (.ok 0, sink) => (.error "failed to write whole buffer", sink)
    | (.ok (taken + 1), sink) => sink.write (rest.drop taken)
termination_by octets => octets.length
decreasing_by
  rw [List.length_drop, List.length_cons]
  omega

/-- Write texts one after the other, up to the first that cannot be written whole. -/
def Sink.writeTexts (sink : Sink) : List String → Except String Unit × Sink
  | [] => (.ok (), sink)
  | text :: rest =>
    match sink.write (Text.Utf8.encode text) with
    | (.error fault, sink) => (.error fault, sink)
    | (.ok (), sink) => sink.writeTexts rest

def Sink.flush (sink : Sink) : Except String Unit × Sink :=
  let outcome := if sink.flushFails then .error "flush failed" else .ok ()
  (outcome, { sink with flushes := sink.flushes + 1 })

def Sink.text (sink : Sink) : String :=
  Text.Utf8.lossy sink.written

end SessionProbe
