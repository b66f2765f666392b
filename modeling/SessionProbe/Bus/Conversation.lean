import SessionProbe.Journal.Entry
import SessionProbe.Reply

set_option autoImplicit false

/-!
A conversation with the bus. The bus is known by what it answers: each request takes the next
answer, and the requests are kept in order.
-/

namespace SessionProbe.Bus

inductive Argument
  | text (value : String)
  | number (value : UInt32)
deriving Repr, DecidableEq

def Argument.ty : Argument → Wire.Ty
  | .text _ => .basic .string
  | .number _ => .basic .uint32

structure Request where
  destination : String
  path : String
  interface : Option String
  member : String
  arguments : List Argument
deriving Repr, DecidableEq

def Request.signature (request : Request) : String :=
  Wire.Ty.signatures (request.arguments.map Argument.ty)

inductive Answer
  | returned (frame : Frame)
  | failed (name : String) (frame : Frame)
  | hungUp
deriving Repr, Inhabited

/-- A connection: the answers to come, what the bus answers once they are used up, and the requests
made. -/
structure Line where
  answers : List Answer
  afterwards : Answer
  requests : List Request := []
deriving Repr, Inhabited

/-- A state together with the journal kept along the way. -/
structure Logged (σ : Type) where
  state : σ
  journal : List Journal.Entry := []
deriving Repr

/-- Work on a state that may fail on the bus, with a journal. What happened before a failure
stays. -/
abbrev Task (σ α : Type) : Type := EStateM BusError (Logged σ) α

def note {σ : Type} (level : Journal.Level) (topic : Journal.Topic) (message : String) :
    Task σ Unit :=
  modify fun logged => { logged with journal := logged.journal ++ [{ level, topic, message }] }

/-- The fault of a request that cannot be sent: the destination is no bus name, or an argument
holds a zero, which no text on the bus may. -/
def Request.problem? (request : Request) : Option LinkError :=
  match Name.checkBus request.destination with
  | .error fault => some (.badName fault.message)
  | .ok () =>
    let hasNul : Argument → Bool
      | .text value => value.toList.contains '\x00'
      | .number _ => false
    if request.arguments.any hasNul then some (.codec Wire.Fault.interiorNul.message) else none

/-- The detail of an error reply: the text that its body starts with, whatever the signature. -/
def errorDetail (frame : Frame) : Option String :=
  match frame.body.text with
  | .ok text => some text
  | .error _ => none

def Answer.toExcept : Answer → Except LinkError Frame
  | .returned frame => .ok frame
  | .failed name frame => .error (.methodError name (errorDetail frame))
  | .hungUp => .error (.io "failed to read from socket")

def Line.next (line : Line) : Answer :=
  line.answers.headD line.afterwards

def Line.after (line : Line) (request : Request) : Line :=
  { line with answers := line.answers.drop 1, requests := line.requests ++ [request] }

/-- Make a request and wait for its answer. A request that cannot be sent leaves no trace. -/
def exchange (request : Request) : Task Line (Except LinkError Frame) := do
  match request.problem? with
  | some problem => return .error problem
  | none =>
    let logged ← get
    set { logged with state := logged.state.after request }
    return logged.state.next.toExcept

/-- A signature without the one pair of parentheses around the whole of it. -/
def bareSignature (signature : String) : String :=
  match signature.toList with
  | '(' :: rest =>
    if rest.getLast? = some ')' then String.ofList rest.dropLast else signature
  | _ => signature

/-- Read a frame whose body has to have a certain signature. -/
def Frame.read {α : Type} (frame : Frame) (signature : String)
    (body : Wire.Body → Except Wire.Fault α) : Except LinkError α :=
  if bareSignature frame.signature = signature then
    (body frame.body).mapError fun fault => .codec fault.message
  else
    .error (.codec s!"Signature mismatch: got `{frame.signature}`, expected `{signature}`")

def readText (frame : Frame) : Except LinkError String :=
  Frame.read frame "s" Wire.Body.text

def readNumber (frame : Frame) : Except LinkError Nat :=
  Frame.read frame "u" Wire.Body.number

end SessionProbe.Bus
