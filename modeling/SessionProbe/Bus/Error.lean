import SessionProbe.Name.Kind

set_option autoImplicit false

/-!
What can go wrong between the program and a remote object, and what is said about it. An error
may have a cause, and that a cause of its own; `sources` lists their texts from the outside in.
-/

namespace SessionProbe.Bus

/-- A fault of the connection itself, or a method call that was answered by an error. -/
inductive LinkError
  | address (text : String)
  | handshake (text : String)
  | failure (text : String)
  | io (text : String)
  | codec (text : String)
  | incorrectType
  | badName (text : String)
  | methodError (name : String) (detail : Option String)
  | invalidReply
  | excessData
  | missingField
  | unsupported
  | invalidGuid
deriving Repr, DecidableEq

def LinkError.message : LinkError → String
  | .address text => s!"address error: {text}"
  | .handshake text => s!"D-Bus handshake failed: {text}"
  | .failure text => text
  | .io text => s!"I/O error: {text}"
  | .codec text => text
  | .incorrectType => "incorrect type"
  | .badName text => text
  | .methodError name detail => name ++ ": " ++ detail.getD "no details"
  | .invalidReply => "Invalid D-Bus method reply"
  | .excessData => "excess data"
  | .missingField => "A required field is missing from message headers"
  | .unsupported => "Connection support is lacking"
  | .invalidGuid => "Invalid GUID"

def LinkError.sources : LinkError → List String
  | .io text => [text]
  | .codec text => [text]
  | .incorrectType => ["incorrect type"]
  | .badName text => [text]
  | _ => []

/-- Why a request was not answered as hoped. -/
inductive BusError
  | connect (cause : LinkError)
  | invalidName (kind : Name.Kind) (value reason : String)
  /-- The service does not run and could not be started. -/
  | serviceUnknown (service : String)
  /-- The service has no object at the path. -/
  | objectNotFound (service path : String)
  | methodUnknown (path method : String)
  /-- The remote side answered with some other error. -/
  | remote (name message : String)
  | transport (cause : LinkError)
  | reply (text : String)
deriving Repr, DecidableEq

def BusError.message : BusError → String
  | .connect cause => s!"failed to connect to session D-Bus: {cause.message}"
  | .invalidName kind value reason => s!"invalid {kind.label} '{value}': {reason}"
  | .serviceUnknown service => s!"service '{service}' is not available on the bus"
  | .objectNotFound service path => s!"no object at '{path}' on service '{service}'"
  | .methodUnknown path method => s!"object '{path}' has no method '{method}'"
  | .remote name message => s!"remote error {name}: {message}"
  | .transport cause => s!"D-Bus transport error: {cause.message}"
  | .reply text => s!"failed to decode reply: {text}"

/-- The texts of the causes behind an error, the outermost first. -/
def BusError.sources : BusError → List String
  | .connect cause => cause.message :: cause.sources
  | .transport cause => cause.message :: cause.sources
  | _ => []

def validate (kind : Name.Kind) (value : String) : Except BusError Unit :=
  match Name.check kind value with
  | .ok () => .ok ()
  | .error reason => .error (.invalidName kind value reason.message)

/-- The errors of the bus daemon that are told apart. -/
inductive StandardError
  | serviceUnknown
  | nameHasNoOwner
  | unknownObject
  | unknownMethod
  | unknownInterface
deriving Repr, DecidableEq

def StandardError.all : List StandardError :=
  [.serviceUnknown, .nameHasNoOwner, .unknownObject, .unknownMethod, .unknownInterface]

def StandardError.name : StandardError → String
  | .serviceUnknown => "org.freedesktop.DBus.Error.ServiceUnknown"
  | .nameHasNoOwner => "org.freedesktop.DBus.Error.NameHasNoOwner"
  | .unknownObject => "org.freedesktop.DBus.Error.UnknownObject"
  | .unknownMethod => "org.freedesktop.DBus.Error.UnknownMethod"
  | .unknownInterface => "org.freedesktop.DBus.Error.UnknownInterface"

def StandardError.ofName? (name : String) : Option StandardError :=
  StandardError.all.find? (fun error => error.name == name)

structure CallTarget where
  service : String
  path : String
  method : String
deriving Repr, DecidableEq

/-- The error of a call that was answered by an error of some name. -/
def classify (name : String) (detail : Option String) (target : CallTarget) : BusError :=
  match StandardError.ofName? name with
  | some .serviceUnknown | some .nameHasNoOwner => .serviceUnknown target.service
  | some .unknownObject => .objectNotFound target.service target.path
  | some .unknownMethod | some .unknownInterface => .methodUnknown target.path target.method
  | none => .remote name (detail.getD "")

def BusError.ofCall (target : CallTarget) : LinkError → BusError
  | .methodError name detail => classify name detail target
  | cause => .transport cause

end SessionProbe.Bus
