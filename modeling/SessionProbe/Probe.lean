import SessionProbe.Bus.RemoteObject
import SessionProbe.Failure
import SessionProbe.Sink

set_option autoImplicit false

/-!
Probes: each calls one method of one object with one text, and prints the reply on a line. Nothing
is tried twice, and a call that fails prints nothing.
-/

namespace SessionProbe

open Bus (Callee Endpoint Line Logged RemoteObject Task note)

structure Probe where
  name : String
  service : String
  path : String
  /-- The interface to address; without one the call names none. -/
  interface : Option String
  method : String
  argument : String
deriving Repr, DecidableEq, Inhabited

namespace Probe

/-- The name that the file server owns on the session bus. -/
def serverName : String := "org.ganesha.nfsd"

/-- Asks the callback simulator for the client ids. -/
def cbsim : Probe where
  name := "cbsim"
  service := serverName
  path := "/org/ganesha/nfsd/CBSIM"
  interface := none
  method := "method1"
  argument := "GETCLIENTIDS"

def matt1 : Probe where
  name := "matt1"
  service := serverName
  path := "/org/ganesha/nfsd/MATT1"
  interface := none
  method := "method2"
  argument := "MaGiC"

def presets : List Probe := [cbsim, matt1]

def named? (name : String) : Option Probe :=
  presets.find? (fun probe => probe.name == name)

end Probe

/-- Work that may also write to a sink, and that may fail for good. -/
abbrev Run (σ α : Type) : Type := EStateM Failure (Logged σ × Sink) α

/-- Do a task, and tell what was attempted if it fails. -/
def Run.attempt {σ α : Type} (what : String) (task : Task σ α) : Run σ α := fun (logged, sink) =>
  match task logged with
  | .ok value logged => .ok value (logged, sink)
  | .error error logged => .error { attempt := what, cause := .bus error } (logged, sink)

/-- Do something to the sink. -/
def Run.output {σ : Type} (action : Sink → Except String Unit × Sink) : Run σ Unit :=
  fun (logged, sink) =>
    match action sink with
    | (.ok (), sink) => .ok () (logged, sink)
    | (.error text, sink) =>
      .error { attempt := "failed to write reply", cause := .output text } (logged, sink)

namespace Probe

variable {σ : Type}

def attempt (probe : Probe) : String :=
  s!"probe {probe.name} failed"

def invoke (probe : Probe) (callee : Callee σ) : Task σ Reply := do
  note .info .probe
    s!"Probe {probe.name}: calling {probe.method} on {probe.service}{probe.path}"
  let reply ← callee probe.method probe.argument
  note .info .probe s!"Probe {probe.name}: reply signature '{reply.signature}'"
  return reply

def print (probe : Probe) (callee : Callee σ) : Run σ Unit := do
  let reply ← Run.attempt probe.attempt (probe.invoke callee)
  Run.output fun sink => sink.writeTexts (reply.pieces ++ ["\n"])
  Run.output Sink.flush

/-- Connect to the session bus, find the object, make the call and print the reply. -/
def run (probe : Probe) (endpoint : Endpoint) : Run Line Unit := do
  Run.attempt probe.attempt (Bus.connect endpoint)
  let object ← Run.attempt probe.attempt
    (RemoteObject.find probe.service probe.path probe.interface)
  probe.print object.call

end Probe

end SessionProbe
