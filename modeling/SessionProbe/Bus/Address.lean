import SessionProbe.Bus.Error
import SessionProbe.Text.Hexadecimal
import SessionProbe.Text.Numeral

set_option autoImplicit false

/-!
Addresses of a bus: a transport, a colon, and options `key=value` between commas. An address that
names a place where nothing listens is well-formed; `Address.refusal` tells how the attempt to
connect there ends.
-/

namespace SessionProbe.Bus

inductive AddressFault
  | noColon
  | noEquals
  | repeatedKey (key : String)
  | badGuid
  | badSocket
  | missing (transport option : String)
  | badNumber
  | badFamily (family : String)
  | unsupported (transport : String)
deriving Repr, DecidableEq

def AddressFault.toLinkError : AddressFault → LinkError
  | .noColon => .address "address has no colon"
  | .noEquals => .address "missing = when parsing key/value"
  | .repeatedKey key => .address s!"Key `{key}` specified multiple times"
  | .badGuid => .invalidGuid
  | .badSocket => .address "unix: address is invalid"
  | .missing transport option => .address s!"{transport} address is missing `{option}`"
  | .badNumber => .address "invalid tcp `port`"
  | .badFamily family => .address s!"invalid tcp address `family`: {family}"
  | .unsupported transport => .address s!"unsupported transport '{transport}'"

inductive Address
  | file (path : String)
  | abstract (name : String)
  /-- A directory to create a socket in, which only a listener can use. -/
  | directory (path : String)
  | tcp (host : String) (number : Nat)
deriving Repr, DecidableEq

/-- The options of an address, in the order written. -/
abbrev Options : Type := List (String × String)

def splitFirst (separator : Char) (text : List Char) : Option (List Char × List Char) :=
  match text.dropWhile (· != separator) with
  | [] => none
  | _ :: rest => some (text.takeWhile (· != separator), rest)

/-- Read options from left to right, after those already read. -/
def readOptions (known : Options) : List (List Char) → Except AddressFault Options
  | [] => .ok known
  | item :: rest =>
    match splitFirst '=' item with
    | none => .error .noEquals
    | some (key, value) =>
      let key := String.ofList key
      if (known.lookup key).isSome then .error (.repeatedKey key)
      else readOptions (known ++ [(key, String.ofList value)]) rest

/-- Thirty-two hexadecimal digits identify a bus. -/
def isGuid (text : String) : Bool :=
  text.length == 32 && text.toList.all fun c => (Text.hexDigit? c).isSome

/-- The address of a socket in the file system. Exactly one option tells which. -/
def unixAddress (options : Options) : Except AddressFault Address :=
  match options.lookup "path", options.lookup "abstract", options.lookup "dir",
    options.lookup "tmpdir" with
  | some path, none, none, none => .ok (.file path)
  | none, some name, none, none => .ok (.abstract name)
  | none, none, some path, none => .ok (.directory path)
  | none, none, none, some path => .ok (.directory path)
  | _, _, _, _ => .error .badSocket

/-- The greatest number that a network address may have behind its host. -/
def maximumNumber : Nat := 65535

/-- A network address. `nonce` asks for a file with a secret as well. -/
def tcpAddress (nonce : Bool) (options : Options) : Except AddressFault Address := do
  let some host := options.lookup "host" | throw (.missing "tcp" "host")
  let some digits := options.lookup "port" | throw (.missing "tcp" "port")
  let some number := Text.unsigned? digits.toList | throw .badNumber
  if maximumNumber < number then throw .badNumber
  if let some family := options.lookup "family" then
    if family ≠ "ipv4" ∧ family ≠ "ipv6" then throw (.badFamily family)
  if nonce ∧ options.lookup "noncefile" = none then throw (.missing "nonce-tcp" "noncefile")
  return .tcp host number

def Address.parse (text : String) : Except AddressFault Address := do
  let some (transport, rest) := splitFirst ':' text.toList | throw .noColon
  let items := if rest.isEmpty then [] else rest.splitOn ','
  let options ← readOptions [] items
  if let some guid := options.lookup "guid" then
    if !isGuid guid then throw .badGuid
  match String.ofList transport with
  | "unix" => unixAddress options
  | "tcp" => tcpAddress false options
  | "nonce-tcp" => tcpAddress true options
  | transport => throw (.unsupported transport)

/-- A socket's name has room for one octet less than this. -/
def socketNameRoom : Nat := 108

/-- How connecting ends where nothing listens. -/
def Address.refusal : Address → LinkError
  | .file path =>
    if path.isEmpty then .io "Invalid argument (os error 22)"
    else if socketNameRoom ≤ Text.Utf8.size path then .io "path must be shorter than SUN_LEN"
    else .io "No such file or directory (os error 2)"
  | .abstract name =>
    if socketNameRoom ≤ Text.Utf8.size name then
      .io "abstract socket name must be shorter than SUN_LEN"
    else .io "Connection refused (os error 111)"
  | .directory _ => .unsupported
  | .tcp _ _ => .io "Connection refused (os error 111)"

/-- How connecting to an address ends when nothing listens anywhere. -/
def unreachable (address : String) : LinkError :=
  match Address.parse address with
  | .ok address => address.refusal
  | .error fault => fault.toLinkError

end SessionProbe.Bus
