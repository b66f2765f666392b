import SessionProbe.Name.Dotted
import SessionProbe.Name.ObjectPath

set_option autoImplicit false

/-!
The four kinds of names that a call needs, and the check that a text is one.
-/

namespace SessionProbe.Name

inductive Kind
  | service
  | objectPath
  | interface
  | method
deriving Repr, DecidableEq, Inhabited

def Kind.label : Kind → String
  | .service => "service name"
  | .objectPath => "object path"
  | .interface => "interface name"
  | .method => "method name"

inductive Reason
  | service (fault : BusFault)
  | objectPath (fault : PathFault)
  | interface (fault : Fault)
  | method (fault : Fault)
deriving Repr, DecidableEq

def Reason.message : Reason → String
  | .service fault => fault.message
  | .objectPath fault => fault.message
  | .interface fault => s!"Invalid interface or error name: {fault.message}"
  | .method fault => s!"Invalid method or signal name: {fault.message}"

def check : Kind → String → Except Reason Unit
  | .service, name => (checkBus name).mapError .service
  | .objectPath, path => (checkPath path).mapError .objectPath
  | .interface, name => (checkInterface name).mapError .interface
  | .method, name => (checkMember name).mapError .method

end SessionProbe.Name
