import SessionProbe.Bus.Connection
import SessionProbe.Text.Quoted

set_option autoImplicit false

/-!
Objects on the bus and calls to their methods. Where a call goes is settled when the object is
found and never changes afterwards.
-/

namespace SessionProbe.Bus

/-- Whatever answers a method call with one text as argument; `σ` is what it remembers. -/
abbrev Callee (σ : Type) : Type := (method argument : String) → Task σ Reply

structure RemoteObject where
  service : String
  /-- The unique name that calls are sent to. -/
  destination : String
  path : String
  interface : Option String
deriving Repr, DecidableEq

/-- Find the object of a service at a path. Names are checked before anything is asked. -/
def RemoteObject.find (service path : String) (interface : Option String) :
    Task Line RemoteObject := do
  MonadExcept.ofExcept (validate .service service)
  MonadExcept.ofExcept (validate .objectPath path)
  match interface with
  | some name => MonadExcept.ofExcept (validate .interface name)
  | none => pure ()
  let destination ← Resolver.daemon.owner service
  note .debug .bus s!"Resolved proxy for {service} ({destination}) at {path}"
  return { service, destination, path, interface }

def RemoteObject.request (object : RemoteObject) (method argument : String) : Request where
  destination := object.destination
  path := object.path
  interface := object.interface
  member := method
  arguments := [.text argument]

def RemoteObject.call (object : RemoteObject) : Callee Line := fun method argument => do
  MonadExcept.ofExcept (validate .method method)
  note .debug .bus s!"Calling {object.path}.{method}({Text.quoted argument})"
  match ← exchange (object.request method argument) with
  | .ok frame => MonadExcept.ofExcept (Reply.ofFrame frame)
  | .error fault =>
    throw (.ofCall { service := object.service, path := object.path, method } fault)

end SessionProbe.Bus
