import SessionProbe.Proofs.Program.Ending

set_option autoImplicit false

/-!
What the configuration of the program can change. The settings file and the log filter decide which
lines of the log are shown, and whether the program gets past the choice of the filter:
`main_eq_ending` splits a run that does into what happens on the bus, told without them, and the log
in front of the report. `main_configuration_irrelevant` compares two runs on the same bus.
-/

namespace SessionProbe

open Bus

/-! ### What happens on the bus -/

namespace Probe

def reportLines (probe : Probe) (error : BusError) : List String :=
  lines ("Error: " ++ Failure.report { attempt := probe.attempt, cause := .bus error })

/-- The ending of a run whose part on the bus had a result, behind a log. -/
def ending (probe : Probe) (log : List String) (requests : List Request) :
    Except BusError Reply → Ending
  | .ok reply =>
    { status := 0, output := Text.Utf8.encode (reply.display ++ "\n"), messages := log, requests }
  | .error error =>
    { status := 1, output := [], messages := log ++ probe.reportLines error, requests }

theorem ask_ends (probe : Probe) (endpoint : Endpoint) :
    ∃ result after, Yields (probe.ask endpoint) endpoint.line result after := by
  cases accepted : endpoint.uniqueName with
  | error fault => exact ⟨_, _, ask_refused probe accepted _⟩
  | ok name =>
      obtain ⟨asked, called, result, _, asks⟩ := probe.ask_converses accepted endpoint.line
      exact ⟨_, _, asks⟩

/-- One part on the bus serves every configuration: the result, the requests and the journal are
those of the endpoint. -/
theorem main_eq_ending (probe : Probe) (endpoint : Endpoint) :
    ∃ result after journal, Yields (probe.ask endpoint) endpoint.line result after ∧
      ∀ environment : Environment, environment.endpoint = endpoint → ¬ environment.Crashes →
        probe.main environment = probe.ending (environment.log journal) after.requests result := by
  obtain ⟨result, after, asks⟩ := ask_ends probe endpoint
  obtain ⟨journal, ran⟩ := run_yields asks [] {}
  refine ⟨result, after, journal, asks, ?_⟩
  rintro environment rfl chosen
  rw [main_eq_run probe chosen]
  cases result with
  | ok reply =>
      simp only [conclude, emit_unlimited] at ran
      simp only [ran]
      rfl
  | error error =>
      simp only [conclude] at ran
      simp only [ran]
      rfl

/-! ### Two configurations -/

/-- What two endings on the same bus have in common. -/
structure ConfigurationLaw (probe : Probe) (one other : Environment) (ending ending' : Ending) :
    Prop where
  status : ending.status = ending'.status ↔ (one.Crashes ↔ other.Crashes)
  /-- The same requests are made in the same order, and the same octets printed. -/
  alike : (one.Crashes ↔ other.Crashes) →
    ending.requests = ending'.requests ∧ ending.output = ending'.output
  crash : one.Crashes → ending.Crash one
  /-- Standard error shows entries of one journal, each run as its own filter has it behind the
  entries about its own settings, and then the same report: none after a success, and after a failure
  that of the error which the failing layer returned. -/
  log : ¬ one.Crashes → ¬ other.Crashes → ∃ journal report,
    ending.messages = one.log journal ++ report ∧
    ending'.messages = other.log journal ++ report ∧
    (ending.status = 0 ∧ report = [] ∨
      ending.status = 1 ∧ ∃ error, probe.Fails one.endpoint error ∧ report = probe.reportLines error)

/-- A bus that hangs up when the owner of the service is asked for. -/
def silentBus : Endpoint :=
  .bus { hello := .returned (Frame.ofText ":1.100") } { answers := [], afterwards := .hungUp }

def plainEnvironment : Environment :=
  { freshEnvironment with endpoint := silentBus }

/-- A user with a broken settings file who asks for everything that the probe tells. -/
def talkativeEnvironment : Environment :=
  { freshEnvironment with
    logFilter := some "ganesha_dbus_probe=debug"
    settingsFile := .octets (Text.Utf8.encode "\x7b not json")
    endpoint := silentBus }

theorem plain_chosen : ¬ plainEnvironment.Crashes := by
  rw [← Environment.choice_eq_none_iff]
  decide +kernel

theorem talkative_chosen : ¬ talkativeEnvironment.Crashes := by
  rw [← Environment.choice_eq_none_iff]
  decide +kernel

end Probe

end SessionProbe
