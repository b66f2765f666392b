import SessionProbe.Bus.Error
import SessionProbe.Wire.Reading
import SessionProbe.Wire.Rendering

set_option autoImplicit false

/-!
The reply to a call: the signature of its body and the text of each value.
-/

namespace SessionProbe

/-- A body with its signature; a body without a signature is empty. -/
structure Frame where
  signature : String
  body : Wire.Body
deriving Repr, Inhabited

/-- The types of the values in a body: those inside a signature that is one struct, else those of
the whole signature, which then has to leave room for two parentheses. -/
def Frame.types (frame : Frame) : Except Wire.Fault (List Wire.Ty) :=
  match Wire.Ty.ofSignature frame.signature with
  | .error fault => .error (.signature fault)
  | .ok [.struct fields] => .ok fields
  | .ok types =>
    let length := Text.Utf8.size frame.signature + 2
    if 255 < length then .error (.longSignature length) else .ok types

def Frame.values (frame : Frame) : Except Wire.Fault (List Wire.Value) :=
  match frame.types with
  | .error fault => .error fault
  | .ok types => frame.body.values types

structure Reply where
  signature : String := ""
  values : List String := []
deriving Repr, DecidableEq, Inhabited

namespace Reply

def ofText (text : String) : Reply :=
  { signature := "s", values := [text] }

def isEmpty (reply : Reply) : Bool :=
  reply.values.isEmpty

/-- The reply in one text: a single value as it is, several between parentheses. -/
def display (reply : Reply) : String :=
  match reply.values with
  | [] => "None"
  | [value] => value
  | values => "(" ++ String.intercalate ", " values ++ ")"

/-- The texts that make up the reply when it is written. -/
def pieces (reply : Reply) : List String :=
  match reply.values with
  | [] => ["None"]
  | [value] => [value]
  | values => ["(", String.intercalate ", " values, ")"]

/-- The reply that a body holds. Without a signature there is none, whatever the octets. -/
def ofFrame (frame : Frame) : Except Bus.BusError Reply :=
  if frame.signature.isEmpty then .ok {}
  else
    match frame.values with
    | .ok values => .ok { signature := frame.signature, values := values.map Wire.Value.render }
    | .error fault => .error (.reply fault.message)

theorem ofFrame_of_values {frame : Frame} {values : List Wire.Value}
    (some : frame.signature.isEmpty = false) (read : frame.values = .ok values) :
    ofFrame frame =
      .ok { signature := frame.signature, values := values.map Wire.Value.render } := by
  unfold ofFrame
  rw [some, if_neg Bool.false_ne_true, read]

/-- A frame gives a reply if it has no signature or if its body can be read. -/
theorem ofFrame_eq_ok {frame : Frame} {reply : Reply} (decoded : ofFrame frame = .ok reply) :
    frame.signature.isEmpty = true ∧ reply = {} ∨
      frame.signature.isEmpty = false ∧ ∃ values, frame.values = .ok values ∧
        reply = { signature := frame.signature, values := values.map Wire.Value.render } := by
  cases empty : frame.signature.isEmpty with
  | true =>
      unfold ofFrame at decoded
      rw [if_pos empty] at decoded
      cases decoded
      exact Or.inl ⟨rfl, rfl⟩
  | false =>
      cases read : frame.values with
      | ok values =>
          rw [ofFrame_of_values empty read] at decoded
          cases decoded
          exact Or.inr ⟨rfl, values, rfl, rfl⟩
      | error fault =>
          unfold ofFrame at decoded
          rw [empty, if_neg Bool.false_ne_true, read] at decoded
          cases decoded

/-- A frame that gives no reply fails for what its body is. -/
theorem ofFrame_eq_error {frame : Frame} {error : Bus.BusError}
    (failed : ofFrame frame = .error error) : ∃ text, error = .reply text := by
  unfold ofFrame at failed
  split at failed
  · cases failed
  · split at failed
    · cases failed
    · cases failed
      exact ⟨_, rfl⟩

end Reply

end SessionProbe
