import SessionProbe.Bus.Connection
import SessionProbe.Text.Hexadecimal

set_option autoImplicit false

/-!
Recorded conversations: what was found at the address of the bus, as lines of text. The first line
tells how connecting went, each further one the answer to a request; behind the last of them the
bus hangs up. A line consists of words between single blanks:

* `nobody ADDRESS`: nothing listens at the address (first line only);
* `refused`: the bus does not let the client in (first line only);
* `returned FRAME`, `failed NAME FRAME`, `hung-up`: an answer, and in the first line the answer to
  the client's greeting.

A frame is `little` or `big`, then the signature of its body, then the octets of the body in
hexadecimal digits; signature and octets may be missing from the end.
-/

namespace SessionProbe.Bus

inductive RecordingFault
  | empty
  /-- A line, counted from one, is not understood. -/
  | unknownLine (number : Nat)
deriving Repr, DecidableEq

def RecordingFault.message : RecordingFault → String
  | .empty => "the recording is empty"
  | .unknownLine number => s!"line {number} of the recording is not understood"

def recordedOrder? : String → Option Wire.ByteOrder
  | "little" => some .little
  | "big" => some .big
  | _ => none

def recordedFrame? : List String → Option Frame
  | [order] => do
    return { signature := "", body := { order := ← recordedOrder? order, octets := #[] } }
  | [order, signature] => do
    return { signature, body := { order := ← recordedOrder? order, octets := #[] } }
  | [order, signature, digits] => do
    let octets ← Text.hexOctets? digits.toList
    return { signature, body := { order := ← recordedOrder? order, octets := octets.toArray } }
  | _ => none

def recordedAnswer? (line : String) : Option Answer :=
  match line.splitOn " " with
  | "returned" :: words => Answer.returned <$> recordedFrame? words
  | "failed" :: name :: words => Answer.failed name <$> recordedFrame? words
  | ["hung-up"] => some .hungUp
  | _ => none

/-- The answers of lines that are counted from a number on. -/
def recordedAnswers : (number : Nat) → List String → Except RecordingFault (List Answer)
  | _, [] => .ok []
  | number, line :: rest =>
    match recordedAnswer? line with
    | none => .error (.unknownLine number)
    | some answer => do
      let answers ← recordedAnswers (number + 1) rest
      return answer :: answers

/-- What recorded lines show to be at the address of the bus. -/
def Endpoint.ofRecording : List String → Except RecordingFault Endpoint
  | [] => .error .empty
  | opening :: rest => do
    let answers ← recordedAnswers 2 rest
    let line : Line := { answers, afterwards := .hungUp }
    match opening.splitOn " " with
    | "nobody" :: words => return .address (String.intercalate " " words)
    | ["refused"] => return .bus { admits := false, hello := .hungUp } line
    | _ =>
      match recordedAnswer? opening with
      | none => throw (.unknownLine 1)
      | some hello => return .bus { hello } line

end SessionProbe.Bus
