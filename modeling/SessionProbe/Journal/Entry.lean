import SessionProbe.Text.Hexadecimal

set_option autoImplicit false

/-!
What a run tells about itself: entries of some level on some topic, and how they stand in the log.
-/

namespace SessionProbe.Journal

/-- How much an entry matters; the further down, the less. -/
inductive Level
  | error
  | warn
  | info
  | debug
  | trace
deriving Repr, DecidableEq, Inhabited

/-- The number of levels that matter at least as much. -/
def Level.verbosity : Level → Nat
  | .error => 1
  | .warn => 2
  | .info => 3
  | .debug => 4
  | .trace => 5

def Level.label : Level → String
  | .error => "ERROR"
  | .warn => "WARN"
  | .info => "INFO"
  | .debug => "DEBUG"
  | .trace => "TRACE"

inductive Topic
  | program
  | setup
  | bus
  | probe
  | settings
deriving Repr, DecidableEq, Inhabited

/-- The target that filters know the whole program by. -/
def programTarget : String := "ganesha_dbus_probe"

/-- The part of the target that tells topics of the program apart. -/
def Topic.section? : Topic → Option String
  | .program => none
  | .setup => some "bus::setup"
  | .bus => some "bus::client"
  | .probe => some "probe"
  | .settings => some "config"

def Topic.target (topic : Topic) : String :=
  match topic.section? with
  | none => programTarget
  | some name => programTarget ++ "::" ++ name

structure Entry where
  level : Level
  topic : Topic
  message : String
deriving Repr, DecidableEq, Inhabited

/-- A character as it stands in the log: those that would make a terminal do something else than
show them are written as their number. -/
def harmless (c : Char) : String :=
  match c with
  | '\x07' => "\\x07"
  | '\x08' => "\\x08"
  | '\x0c' => "\\x0c"
  | '\x1b' => "\\x1b"
  | '\x7f' => "\\x7f"
  | _ =>
    if 0x80 ≤ c.toNat ∧ c.toNat ≤ 0x9F then
      "\\u\x7b" ++ Text.hexadecimal c.toNat ++ "\x7d"
    else
      String.singleton c

/-- An entry as it stands in the log, less the time. -/
def Entry.text (entry : Entry) : String :=
  let message := String.join (entry.message.toList.map harmless)
  s!"{entry.level.label} {entry.topic.target}: {message}"

end SessionProbe.Journal
