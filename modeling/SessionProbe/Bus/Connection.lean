import SessionProbe.Bus.Address
import SessionProbe.Bus.Resolver

set_option autoImplicit false

/-!
The connection to the session bus: how it is made, and the daemon's answers about names.
-/

namespace SessionProbe.Bus

/-- How the bus meets a client that connects. -/
structure Welcome where
  admits : Bool := true
  hello : Answer
deriving Repr, Inhabited

/-- What is to be found at the address of the session bus. -/
inductive Endpoint
  | bus (welcome : Welcome) (line : Line)
  | address (text : String)
deriving Repr, Inhabited

def Welcome.uniqueName (welcome : Welcome) : Except LinkError String := do
  if !welcome.admits then
    throw (.handshake "Exhausted available AUTH mechanisms")
  let frame ← welcome.hello.toExcept
  let name ← readText frame
  match Name.checkUnique name with
  | .ok () => return name
  | .error fault => throw (.codec s!"Invalid unique bus name: {fault.message}")

/-- Whether connecting succeeds, and the unique name if it does. -/
def Endpoint.uniqueName : Endpoint → Except LinkError String
  | .bus welcome _ => welcome.uniqueName
  | .address text => .error (unreachable text)

def Endpoint.line : Endpoint → Line
  | .bus _ line => line
  | .address _ => default

def connect {σ : Type} (endpoint : Endpoint) : Task σ Unit := do
  note .info .bus "Connecting to session D-Bus..."
  match endpoint.uniqueName with
  | .error fault => throw (.connect fault)
  | .ok name =>
    note .debug .bus s!"Session bus assigned unique name {name}"
    note .info .bus "Connected to session D-Bus"

def Daemon.request (member : String) (arguments : List Argument) : Request where
  destination := Name.daemon
  path := "/org/freedesktop/DBus"
  interface := some Name.daemon
  member
  arguments

/-- Ask the bus daemon who owns a name. Nobody does if the daemon answers with the error that says
so. -/
def Daemon.nameOwner (service : String) : Task Line (Option String) := do
  match ← exchange (Daemon.request "GetNameOwner" [.text service]) with
  | .ok frame =>
    match readText frame with
    | .ok owner => return some owner
    | .error fault => throw (.transport fault)
  | .error (.methodError name detail) =>
    if name = StandardError.nameHasNoOwner.name then return none
    else throw (.transport (.methodError name detail))
  | .error fault => throw (.transport fault)

def Daemon.startService (service : String) : Task Line Unit := do
  match ← exchange (Daemon.request "StartServiceByName" [.text service, .number 0]) with
  | .ok frame =>
    match readNumber frame with
    | .ok outcome => note .debug .bus s!"StartServiceByName({service}) returned {outcome}"
    | .error fault => throw (.transport fault)
  | .error (.methodError name detail) =>
    let text := detail.getD ""
    note .debug .bus s!"Activation of {service} failed: {name} {text}"
    throw (.serviceUnknown service)
  | .error fault => throw (.transport fault)

/-- The bus daemon as the one to ask about names. -/
def Resolver.daemon : Resolver Line where
  nameOwner := Daemon.nameOwner
  startService := Daemon.startService

end SessionProbe.Bus
