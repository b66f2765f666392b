import SessionProbe.Program
import SessionProbe.Proofs.Journal.Filter
import SessionProbe.Proofs.Probe.Requests
import SessionProbe.Proofs.Program.Report

set_option autoImplicit false

/-!
How the program ends. `Prints` is the ending with a reply on standard output, `Reports` the one with
a report on standard error, and `Crash` the one of a program that could not get past its log filter.
`main_outcome` says that a run of a preset probe has just one of the three. Between the first two the
answers of the bus decide alone; the last one only hangs on the log filters.
-/

namespace SessionProbe

/-! ### The choice of the log filter -/

/-- The choice of the log filter crashes. -/
def Environment.Crashes (environment : Environment) : Prop :=
  Journal.Filter.Crashes environment.valueCheck environment.settings.options.logFilter
    environment.logFilter

theorem Environment.choice_eq_none_iff {environment : Environment} :
    environment.choice.filter = none ↔ environment.Crashes :=
  Journal.Filter.choose_filter_eq_none_iff

/-- Nothing was printed and nothing asked of the bus. Standard error holds no more than complaints
about directives of the settings. -/
structure Ending.Crash (environment : Environment) (ending : Ending) : Prop where
  status : ending.status = crashStatus
  output : ending.output = []
  requests : ending.requests = []
  messages : ∀ line ∈ ending.messages,
    ∃ text ∈ Journal.Filter.texts environment.settings.options.logFilter, ∃ fault,
      Journal.Directive.parse environment.valueCheck text = .error (.refused fault) ∧
      line = Journal.Filter.complaint text fault

namespace Probe

open Bus

/-! ### The two endings of a run on the bus -/

/-- The single call was answered by a reply, which alone stands on standard output. -/
structure Prints (probe : Probe) (environment : Environment) (ending : Ending) : Prop where
  status : ending.status = 0
  /-- The call is the last request, and no question before it goes to the object. Its answer is the
  reply that is printed, with a line end. -/
  printed : ∃ asked owner reply,
    ending.requests = environment.endpoint.line.requests ++ asked ++ [probe.request owner] ∧
    (∀ request ∈ asked, request.destination = Name.daemon ∧ request.member ≠ probe.method) ∧
    (environment.endpoint.line.answer asked.length).Returns Reply.ofFrame reply ∧
    ending.output = Text.Utf8.encode (reply.display ++ "\n")

/-- The error of the layer at which a run fails: the connection, the search for the object, or the
call of the object. -/
inductive Fails (probe : Probe) (endpoint : Endpoint) : BusError → Prop
  | connection {fault : LinkError} (refused : endpoint.uniqueName = .error fault) :
      Fails probe endpoint (.connect fault)
  | object {name : String} {error : BusError} {after : Line}
      (accepted : endpoint.uniqueName = .ok name)
      (lost : Yields (RemoteObject.find probe.service probe.path probe.interface) endpoint.line
        (.error error) after) :
      Fails probe endpoint error
  | call {name : String} {object : RemoteObject} {error : BusError} {middle after : Line}
      (accepted : endpoint.uniqueName = .ok name)
      (found : Yields (RemoteObject.find probe.service probe.path probe.interface) endpoint.line
        (.ok object) middle)
      (failed : Yields (object.call probe.method probe.argument) middle (.error error) after) :
      Fails probe endpoint error

/-- Nothing stands on standard output, and standard error ends with the report of the error that
the failing layer returned. -/
structure Reports (probe : Probe) (environment : Environment) (ending : Ending) : Prop where
  status : ending.status = 1
  output : ending.output = []
  /-- The report names the probe in its first line, and its first cause is the text of the
  error. -/
  report : ∃ error log label further,
    probe.Fails environment.endpoint error ∧
    ending.messages = log ++ lines ("Error: " ++
      Failure.report { attempt := probe.attempt, cause := .bus error }) ∧
    lines ("Error: " ++ Failure.report { attempt := probe.attempt, cause := .bus error }) =
      ("Error: probe " ++ probe.name ++ " failed") :: "" :: "Caused by:" ::
        (lines (indented label error.message) ++ further)

/-- The connection is made, the owner of the service is found and has a name that a call can be
sent to, and the call is answered by a return that reads as a reply. -/
def Answered (probe : Probe) (endpoint : Endpoint) : Prop :=
  ∃ name owner count reply,
    endpoint.uniqueName = .ok name ∧
    endpoint.line.FindsOwner probe.service owner count ∧
    Name.checkBus owner = .ok () ∧
    (endpoint.line.answer count).Returns Reply.ofFrame reply

/-! ### The layers of a run -/

theorem find_ends (service path : String) (interface : Option String) (line : Line) :
    ∃ result after, Yields (RemoteObject.find service path interface) line result after := by
  cases names : validateAll (Bus.targetNames service path interface) with
  | error error => exact ⟨_, _, find_misnamed names line⟩
  | ok nothing =>
      obtain ⟨asked, result, _, searched⟩ := owner_yields (checkBus_of_targetNames names) line
      exact ⟨_, _, find_yields names searched⟩

theorem call_ends (object : RemoteObject) (method argument : String) (line : Line) :
    ∃ result after, Yields (object.call method argument) line result after := by
  cases valid : validate .method method with
  | error error => exact ⟨_, _, call_misnamed valid line⟩
  | ok nothing =>
      cases sent : (object.request method argument).problem? with
      | some problem => exact ⟨_, _, call_refused valid sent line⟩
      | none =>
          have answered := call_yields valid sent line []
          rw [Line.afterAll_nil] at answered
          exact ⟨_, _, answered⟩

theorem ask_fails {probe : Probe} {endpoint : Endpoint} {error : BusError} {after : Line}
    (asks : Yields (probe.ask endpoint) endpoint.line (.error error) after) :
    probe.Fails endpoint error := by
  cases accepted : endpoint.uniqueName with
  | error fault =>
      cases (asks.unique (ask_refused probe accepted _)).1
      exact .connection accepted
  | ok name =>
      have connected := connect_yields accepted endpoint.line
      obtain ⟨located, middle, searched⟩ :=
        find_ends probe.service probe.path probe.interface endpoint.line
      cases located with
      | error found =>
          cases (asks.unique (connected.bind searched.bind_error)).1
          exact .object accepted searched
      | ok object =>
          obtain ⟨outcome, last, called⟩ := call_ends object probe.method probe.argument middle
          have whole : Yields (probe.ask endpoint) endpoint.line outcome last :=
            connected.bind (searched.bind (invoke_yields called))
          cases (asks.unique whole).1
          exact .call accepted searched called

/-! ### From the result on the bus to the ending -/

theorem emit_unlimited {σ : Type} (reply : Reply) (logged : Logged σ) :
    emit reply (logged, ({} : Sink)) =
      .ok () (logged, { written := Text.Utf8.encode (reply.display ++ "\n"), flushes := 1 }) := by
  have written : Sink.write {} (Text.Utf8.encode (reply.display ++ "\n")) =
      (.ok (), { written := Text.Utf8.encode (reply.display ++ "\n") }) :=
    Sink.write_of_fits (Nat.le_refl _)
  unfold emit
  rw [bind_apply]
  simp only [Run.output, written]
  rfl

variable {probe : Probe} {environment : Environment} {after : Line}

theorem main_of_crash (probe : Probe) (crashes : environment.Crashes) :
    (probe.main environment).Crash environment := by
  unfold main
  rw [if_pos (Option.isNone_iff_eq_none.mpr (Environment.choice_eq_none_iff.mpr crashes))]
  exact ⟨rfl, rfl, rfl, fun _ => Journal.Filter.complaint_of_mem⟩

theorem main_eq_run (probe : Probe) (chosen : ¬ environment.Crashes) :
    probe.main environment =
      match probe.run environment.endpoint ({ state := environment.endpoint.line }, {}) with
      | .ok () (logged, sink) =>
        { status := 0
          output := sink.written
          messages := environment.log logged.journal
          requests := logged.state.requests }
      | .error failure (logged, sink) =>
        { status := 1
          output := sink.written
          messages := environment.log logged.journal ++ lines ("Error: " ++ failure.report)
          requests := logged.state.requests } := by
  have some : environment.choice.filter.isNone ≠ true := fun none =>
    chosen (Environment.choice_eq_none_iff.mp (Option.isNone_iff_eq_none.mp none))
  exact if_neg some

theorem main_of_reply {reply : Reply} (chosen : ¬ environment.Crashes)
    (asks : Yields (probe.ask environment.endpoint) environment.endpoint.line (.ok reply) after) :
    ∃ log, probe.main environment =
      { status := 0
        output := Text.Utf8.encode (reply.display ++ "\n")
        messages := log
        requests := after.requests } := by
  obtain ⟨entries, ran⟩ := run_yields asks [] {}
  simp only [conclude, emit_unlimited] at ran
  rw [main_eq_run probe chosen]
  simp only [ran]
  exact ⟨_, rfl⟩

theorem main_of_error {error : BusError} (chosen : ¬ environment.Crashes)
    (asks : Yields (probe.ask environment.endpoint) environment.endpoint.line (.error error)
      after) :
    ∃ log, probe.main environment =
      { status := 1
        output := []
        messages := log ++ lines ("Error: " ++
          Failure.report { attempt := probe.attempt, cause := .bus error })
        requests := after.requests } := by
  obtain ⟨entries, ran⟩ := run_yields asks [] {}
  simp only [conclude] at ran
  rw [main_eq_run probe chosen]
  simp only [ran]
  exact ⟨_, rfl⟩

/-! ### The presets -/

theorem preset_names_valid {probe : Probe} (preset : probe ∈ presets) :
    ∀ name ∈ probe.names, Name.check name.1 name.2 = .ok () := by
  rw [forall_mem_names_iff]
  simp only [presets, List.mem_cons, List.not_mem_nil, or_false] at preset
  rcases preset with rfl | rfl <;> exact ⟨rfl, rfl⟩

theorem preset_argument_sendable {probe : Probe} (preset : probe ∈ presets) :
    '\x00' ∉ probe.argument.toList := by
  simp only [presets, List.mem_cons, List.not_mem_nil, or_false] at preset
  rcases preset with rfl | rfl <;> decide

theorem preset_attempt_single {probe : Probe} (preset : probe ∈ presets) :
    '\n' ∉ probe.attempt.toList := by
  simp only [presets, List.mem_cons, List.not_mem_nil, or_false] at preset
  rcases preset with rfl | rfl <;> decide

theorem preset_method_ne {probe : Probe} (preset : probe ∈ presets) :
    "GetNameOwner" ≠ probe.method ∧ "StartServiceByName" ≠ probe.method := by
  simp only [presets, List.mem_cons, List.not_mem_nil, or_false] at preset
  rcases preset with rfl | rfl <;> decide

/-! ### The outcome -/

private theorem attempt_line (probe : Probe) :
    "Error: " ++ probe.attempt = "Error: probe " ++ probe.name ++ " failed" := by
  have opening : "Error: probe " = "Error: " ++ "probe " := by rfl
  have attempted : probe.attempt = "probe " ++ probe.name ++ " failed" := rfl
  rw [opening, attempted]
  simp only [String.append_assoc]

private theorem reports_of_error (preset : probe ∈ presets) {error : BusError}
    (chosen : ¬ environment.Crashes)
    (asks : Yields (probe.ask environment.endpoint) environment.endpoint.line (.error error)
      after) :
    probe.Reports environment (probe.main environment) := by
  obtain ⟨log, ended⟩ := main_of_error chosen asks
  rw [ended]
  obtain ⟨label, further, reported⟩ := Failure.lines_report
    { attempt := probe.attempt, cause := .bus error } (preset_attempt_single preset) rfl
  refine ⟨rfl, rfl, error, log, label, further, ask_fails asks, rfl, ?_⟩
  rw [reported, attempt_line]

private theorem prints_of_reply (preset : probe ∈ presets) {name : String} {reply : Reply}
    (chosen : ¬ environment.Crashes) (accepted : environment.endpoint.uniqueName = .ok name)
    (asks : Yields (probe.ask environment.endpoint) environment.endpoint.line (.ok reply) after) :
    probe.Prints environment (probe.main environment) ∧ probe.Answered environment.endpoint := by
  obtain ⟨log, ended⟩ := main_of_reply chosen asks
  obtain ⟨asked, called, result, talk, converses⟩ :=
    probe.ask_converses accepted environment.endpoint.line
  obtain ⟨same, left⟩ := asks.unique converses
  subst left
  have law := talk.requestLaw
  cases talk with
  | misnamed => cases same
  | unresolved => cases same
  | badMethod => cases same
  | refused => cases same
  | @called _ owner target search method sent =>
      have answered := (Answer.reply_eq_ok_iff _ _ _).mp same.symm
      have reachable := ((request_sendable_iff _ _).mp sent).1
      rw [ended]
      refine ⟨⟨rfl, asked, owner, reply, ?_, ?_, answered, rfl⟩,
        name, owner, asked.length, reply, accepted, search.findsOwner, reachable, answered⟩
      · rw [List.append_assoc]
        rfl
      · intro request member
        obtain ⟨toDaemon, kind⟩ := law.daemon request member
        refine ⟨toDaemon, ?_⟩
        rcases kind with ⟨asksOwner, _⟩ | ⟨asksStart, _⟩
        · rw [asksOwner]
          exact (preset_method_ne preset).1
        · rw [asksStart]
          exact (preset_method_ne preset).2

private theorem ask_answered (preset : probe ∈ presets) {endpoint : Endpoint}
    (answered : probe.Answered endpoint) :
    ∃ reply after, Yields (probe.ask endpoint) endpoint.line (.ok reply) after := by
  obtain ⟨name, owner, count, reply, accepted, finds, reachable, returns⟩ := answered
  obtain ⟨asked, called, result, talk, converses⟩ := probe.ask_converses accepted endpoint.line
  have calls : called ≠ [] := talk.requestLaw.calls.mpr
    ⟨preset_names_valid preset, preset_argument_sendable preset, owner, count, finds, reachable⟩
  cases talk with
  | called target search method sent =>
      have sameCount := (finds.result_eq search).2
      rw [sameCount, (Answer.reply_eq_ok_iff _ _ _).mpr returns] at converses
      exact ⟨reply, _, converses⟩
  | _ => exact absurd rfl calls

private theorem main_of_chosen (preset : probe ∈ presets) (chosen : ¬ environment.Crashes) :
    probe.Prints environment (probe.main environment) ∧ probe.Answered environment.endpoint ∨
      probe.Reports environment (probe.main environment) ∧
        ¬ probe.Answered environment.endpoint := by
  -- An error on the bus is reported, and then nothing was answered all the way.
  have ofError {error : BusError} {after : Line}
      (asks : Yields (probe.ask environment.endpoint) environment.endpoint.line (.error error)
        after) :
      probe.Reports environment (probe.main environment) ∧
        ¬ probe.Answered environment.endpoint := by
    refine ⟨reports_of_error preset chosen asks, ?_⟩
    intro answered
    obtain ⟨reply, other, replied⟩ := ask_answered preset answered
    cases (asks.unique replied).1
  cases accepted : environment.endpoint.uniqueName with
  | error fault => exact Or.inr (ofError (ask_refused probe accepted _))
  | ok name =>
      obtain ⟨asked, called, result, _, asks⟩ :=
        probe.ask_converses accepted environment.endpoint.line
      cases result with
      | error error => exact Or.inr (ofError asks)
      | ok reply => exact Or.inl (prints_of_reply preset chosen accepted asks)

/-- The ways for a run to end, of which there is no fourth. -/
structure OutcomeLaw (probe : Probe) (environment : Environment) (ending : Ending) : Prop where
  ends : probe.Prints environment ending ∨ probe.Reports environment ending ∨
    ending.Crash environment
  printsOnly : probe.Prints environment ending →
    ¬ probe.Reports environment ending ∧ ¬ ending.Crash environment
  reportsOnly : probe.Reports environment ending → ¬ ending.Crash environment
  /-- A reply is printed just when the bus answers all the way, if a log filter was chosen. -/
  prints_iff : probe.Prints environment ending ↔
    ¬ environment.Crashes ∧ probe.Answered environment.endpoint
  crash_iff : ending.Crash environment ↔ environment.Crashes
  /-- A crash takes a directive with a blank in front and a character outside ASCII. -/
  crashNeeds : ending.Crash environment →
    ∃ given, (environment.logFilter = some given ∨
        given = environment.settings.options.logFilter) ∧
      ∃ text ∈ Journal.Filter.texts given,
        (∃ c ∈ text.head?, Text.isBlank c = true) ∧ ∃ c ∈ text, 0x80 ≤ c.toNat

/-- A user without settings on a bus that starts the service. -/
def freshEnvironment : Environment where
  logFilter := none
  settingsPath := "/home/user/.config/ganesha-dbus-probe/settings.json"
  settingsFile := .missing
  endpoint := activatingBus

/-- The reply of a started service is printed. -/
example : (cbsim.main freshEnvironment).output = Text.Utf8.encode "done\n" := by
  decide +kernel

/-- A user whose log filter has a blank in front of a target that begins outside ASCII. -/
def shiftedEnvironment : Environment :=
  { freshEnvironment with logFilter := some " é=info" }

end Probe

end SessionProbe
