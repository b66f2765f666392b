import SessionProbe.Journal.Filter
import SessionProbe.Probe
import SessionProbe.Settings.File

set_option autoImplicit false

/-!
The program: load the settings, choose the log filter, run one probe, print the reply. Standard
output holds the reply and nothing else; the log and the report of a failure go to standard error.
-/

namespace SessionProbe

/-- What the program finds around it. -/
structure Environment where
  /-- The log filter of the environment. -/
  logFilter : Option String
  settingsPath : String
  settingsFile : Settings.File
  /-- What is at the address of the session bus. -/
  endpoint : Bus.Endpoint
  valueCheck : Journal.ValueCheck := fun _ => none

structure Ending where
  status : Nat
  output : List UInt8
  /-- The lines on standard error, less what is said about a crash itself: that tells a place inside
  a library. -/
  messages : List String
  requests : List Bus.Request

/-- The status of a run that ends in a crash, unless the build leaves that to a signal. -/
def crashStatus : Nat := 101

namespace Environment

variable (environment : Environment)

def settings : Settings.Loaded :=
  Settings.load environment.settingsPath environment.settingsFile

/-- The filter of the log, which is chosen before anything is asked of the bus. -/
def choice : Journal.Filter.Choice :=
  Journal.Filter.choose environment.valueCheck environment.logFilter
    environment.settings.options.logFilter

/-- The entries that come before those of the probe. -/
def opening : List Journal.Entry :=
  environment.settings.report ++
    [{ level := .debug, topic := .program,
       message := s!"Settings from {environment.settings.path}" },
      { level := .debug, topic := .setup, message := "Bus library set up" }]

def shows (entry : Journal.Entry) : Bool :=
  environment.choice.filter.any (·.shows entry)

/-- The lines of the log when the probe has kept a journal: the complaints, and the lines of the
entries that the filter shows. -/
def log (journal : List Journal.Entry) : List String :=
  environment.choice.complaints ++
    ((environment.opening ++ journal).filter environment.shows).flatMap fun entry =>
      lines entry.text

end Environment

def Probe.main (probe : Probe) (environment : Environment) : Ending :=
  if environment.choice.filter.isNone then
    { status := crashStatus
      output := []
      messages := environment.choice.complaints
      requests := [] }
  else
    match probe.run environment.endpoint ({ state := environment.endpoint.line }, {}) with
    | .ok () (logged, sink) =>
      { status := 0
        output := sink.written
        messages := environment.log logged.journal
        requests := logged.state.requests }
    | .error failure (logged, sink) =>
      { status := 1
        output := sink.written
        messages := environment.log logged.journal ++ lines ("Error: " ++ failure.report)
        requests := logged.state.requests }

end SessionProbe
