import SessionProbe.Proofs.Bus.Step
import SessionProbe.Proofs.Trail
import SessionProbe.Proofs.Wire.Frame

set_option autoImplicit false

/-!
Whole sessions. What one step does to the line and to the table of objects carries over to runs of
any length by induction on the steps. `session_law` puts together what a run keeps to: the answers
are used up in order, the table only grows, and a call stays bound to the object that its number
named when the object was found.
-/

namespace SessionProbe.Bus

def Session.reports (session : Session) (steps : List Step) : List StepReport :=
  (session.steps steps).1

def Session.after (session : Session) (steps : List Step) : Session :=
  (session.steps steps).2

def Session.report (session : Session) (step : Step) : StepReport :=
  { outcome := (session.step step).1
    requests := (session.step step).2.line.state.requests.drop session.line.state.requests.length
    journal := (session.step step).2.line.journal.drop session.line.journal.length }

def requestsOf (reports : List StepReport) : List Request :=
  reports.flatMap StepReport.requests

def objectsOf (reports : List StepReport) : List RemoteObject :=
  reports.flatMap fun report => report.outcome.object?.toList

section Unfolding

variable (session : Session) (step : Step) (steps : List Step)

theorem Session.reports_cons :
    session.reports (step :: steps) =
      session.report step :: (session.step step).2.reports steps := rfl

theorem Session.after_cons :
    session.after (step :: steps) = (session.step step).2.after steps := rfl

def Session.reported (session : Session) (step : Step) : StepReport × Session :=
  (session.report step, (session.step step).2)

theorem Session.reports_eq_trail :
    session.reports steps = Trail.reports Session.reported session steps := by
  induction steps generalizing session with
  | nil => rfl
  | cons step steps ih =>
      rw [Trail.reports, ← ih]
      rfl

theorem Session.after_eq_trail :
    session.after steps = Trail.after Session.reported session steps := by
  induction steps generalizing session with
  | nil => rfl
  | cons step steps ih => exact ih (session.step step).2

theorem Session.after_append (more : List Step) :
    session.after (steps ++ more) = (session.after steps).after more := by
  simp only [Session.after_eq_trail]
  exact Trail.after_append _ _ _ _

theorem Session.getElem?_reports (n : Nat) :
    (session.reports steps)[n]? =
      steps[n]?.map fun step => (session.after (steps.take n)).report step := by
  rw [Session.reports_eq_trail, Session.after_eq_trail]
  exact Trail.getElem?_reports _ _ _ _

end Unfolding

/-! ### One step -/

variable {session : Session} {step : Step} {asked : List Request}

theorem Session.Steps.requests_report (steps : session.Steps step asked) :
    (session.report step).requests = asked := by
  obtain ⟨entries, left⟩ := steps.leaves
  simp [Session.report, left, Line.afterAll]

variable (session step)

theorem Session.report_goes :
    step.Goes session.objects (session.line.state.exchanges (session.report step).requests)
      (session.report step).outcome := by
  obtain ⟨asked, steps⟩ := session.step_steps step
  rw [steps.requests_report]
  exact steps.goes

theorem Session.step_line :
    (session.step step).2.line.state =
      session.line.state.afterAll (session.report step).requests := by
  obtain ⟨asked, steps⟩ := session.step_steps step
  obtain ⟨entries, left⟩ := steps.leaves
  rw [steps.requests_report, left]

theorem Session.step_objects :
    (session.step step).2.objects =
      session.objects ++ (session.report step).outcome.object?.toList := by
  obtain ⟨asked, steps⟩ := session.step_steps step
  obtain ⟨entries, left⟩ := steps.leaves
  rw [left]
  rfl

/-! ### Runs -/

variable (steps : List Step)

theorem Session.after_line :
    (session.after steps).line.state =
      session.line.state.afterAll (requestsOf (session.reports steps)) := by
  induction steps generalizing session with
  | nil => exact session.line.state.afterAll_nil.symm
  | cons step steps ih =>
      rw [Session.after_cons, Session.reports_cons, ih, session.step_line step]
      exact (Line.afterAll_append _ _ _).symm

theorem Session.after_objects :
    (session.after steps).objects = session.objects ++ objectsOf (session.reports steps) := by
  induction steps generalizing session with
  | nil => exact (List.append_nil _).symm
  | cons step steps ih =>
      rw [Session.after_cons, Session.reports_cons, ih, session.step_objects step]
      exact List.append_assoc _ _ _

theorem Session.objects_prefix_after : session.objects <+: (session.after steps).objects := by
  rw [Session.after_objects]
  exact List.prefix_append _ _

theorem Session.after_take_prefix {m n : Nat} (earlier : m ≤ n) :
    (session.after (steps.take m)).objects <+: (session.after (steps.take n)).objects := by
  obtain ⟨more, split⟩ : steps.take m <+: steps.take n := List.take_prefix_take_left earlier
  rw [← split, Session.after_append]
  exact Session.objects_prefix_after _ more

/-! ### The exchanges of a run -/

def Session.exchanged (session : Session) (step : Step) : List Exchange × Session :=
  (session.line.state.exchanges (session.report step).requests, (session.step step).2)

/-- The exchanges of each step, as they took place. -/
def Session.dialogue (session : Session) (steps : List Step) : List (List Exchange) :=
  Trail.reports Session.exchanged session steps

/-- Whatever the steps, one after the other they use up the answers of the line in order. -/
theorem Session.flatten_dialogue :
    (session.dialogue steps).flatten =
      session.line.state.exchanges (requestsOf (session.reports steps)) := by
  induction steps generalizing session with
  | nil => rfl
  | cons step steps ih =>
      -- The later steps talk on the line that the requests of the first one left.
      rw [Session.dialogue, Trail.reports, List.flatten_cons]
      refine (congrArg _ (ih (session.step step).2)).trans ?_
      rw [session.step_line step]
      exact (Line.exchanges_append _ _ _).symm

theorem Session.getElem?_dialogue (n : Nat) :
    (session.dialogue steps)[n]? =
      steps[n]?.map fun step => (session.after (steps.take n)).line.state.exchanges
        ((session.after (steps.take n)).report step).requests := by
  rw [Session.after_eq_trail]
  exact Trail.getElem?_reports Session.exchanged _ _ _

/-! ### The law of a session -/

/-- What a session keeps to over a run of steps. -/
structure Session.Law (session : Session) (steps : List Step) : Prop where
  reported : (session.reports steps).length = steps.length
  /-- All requests of the run, in order, meet the answers of the line, in order. -/
  answered : (session.dialogue steps).flatten =
    session.line.state.exchanges (requestsOf (session.reports steps))
  cursor : (session.after steps).line.state =
    session.line.state.afterAll (requestsOf (session.reports steps))
  goes : ∀ {n : Nat} {step : Step}, steps[n]? = some step →
    ∃ report exchanges, (session.reports steps)[n]? = some report ∧
      (session.dialogue steps)[n]? = some exchanges ∧
      exchanges.map Exchange.request = report.requests ∧
      step.Goes (session.after (steps.take n)).objects exchanges report.outcome
  grows : ∀ {n : Nat} {report : StepReport}, (session.reports steps)[n]? = some report →
    (session.after (steps.take (n + 1))).objects =
      (session.after (steps.take n)).objects ++ report.outcome.object?.toList
  finds : ∀ {n number : Nat} {report : StepReport} {object : RemoteObject},
    (session.reports steps)[n]? = some report → report.outcome = .found number object →
      (∃ service path interface, steps[n]? = some (.find service path interface)) ∧
        number = (session.after (steps.take n)).objects.length
  kept : ∀ {m n : Nat}, m ≤ n →
    (session.after (steps.take m)).objects <+: (session.after (steps.take n)).objects
  /-- A call goes by the object that its number named at any earlier time. -/
  calls : ∀ {m n number : Nat} {method argument : String} {object : RemoteObject}
    {report : StepReport}, m ≤ n →
      (session.after (steps.take m)).objects[number]? = some object →
      steps[n]? = some (.call number method argument) →
      (session.reports steps)[n]? = some report →
        (object.Sends method argument → report.requests = [object.request method argument]) ∧
          (¬ object.Sends method argument → report.requests = [])

variable {session} {steps : List Step}

private theorem report_at {n : Nat} {report : StepReport}
    (reported : (session.reports steps)[n]? = some report) :
    ∃ step, steps[n]? = some step ∧ (session.after (steps.take n)).report step = report := by
  rw [Session.getElem?_reports] at reported
  exact Option.map_eq_some_iff.mp reported

private theorem objects_at_succ {n : Nat} {step : Step} (taken : steps[n]? = some step) :
    (session.after (steps.take (n + 1))).objects =
      (session.after (steps.take n)).objects ++
        ((session.after (steps.take n)).report step).outcome.object?.toList := by
  have next := Trail.after_take_succ Session.reported session taken
  rw [← Session.after_eq_trail, ← Session.after_eq_trail] at next
  rw [next]
  exact Session.step_objects _ step

private theorem kept_object {m n number : Nat} {object : RemoteObject} (earlier : m ≤ n)
    (present : (session.after (steps.take m)).objects[number]? = some object) :
    (session.after (steps.take n)).objects[number]? = some object := by
  obtain ⟨found, kept⟩ := session.after_take_prefix steps earlier
  obtain ⟨inside, _⟩ := List.getElem?_eq_some_iff.mp present
  rw [← kept, List.getElem?_append_left inside]
  exact present

theorem session_law (session : Session) (steps : List Step) : session.Law steps := by
  constructor
  case reported =>
    rw [Session.reports_eq_trail]
    exact Trail.length_reports _ _ _
  case answered => exact session.flatten_dialogue steps
  case cursor => exact session.after_line steps
  case goes =>
    intro n step taken
    refine ⟨(session.after (steps.take n)).report step, _, ?_, ?_, ?_,
      (session.after (steps.take n)).report_goes step⟩
    · rw [Session.getElem?_reports, taken]
      rfl
    · rw [Session.getElem?_dialogue, taken]
      rfl
    · exact Line.requests_exchanges _ _
  case grows =>
    intro n report reported
    obtain ⟨step, taken, rfl⟩ := report_at reported
    exact objects_at_succ taken
  case finds =>
    intro n number report object reported found
    obtain ⟨step, taken, rfl⟩ := report_at reported
    have goes := (session.after (steps.take n)).report_goes step
    obtain ⟨⟨service, path, interface, rfl⟩, last⟩ := goes.finds found
    exact ⟨⟨service, path, interface, taken⟩, last⟩
  case kept =>
    intro m n earlier
    exact session.after_take_prefix steps earlier
  case calls =>
    intro m n number method argument object report earlier bound taken reported
    obtain ⟨step, stepped, rfl⟩ := report_at reported
    rw [taken] at stepped
    cases stepped
    have goes := (session.after (steps.take n)).report_goes (.call number method argument)
    have calls := goes.calls (kept_object earlier bound)
    rwa [Line.requests_exchanges] at calls

/-- A call goes to the owner that was found, whoever owns the name by then. -/
example :
    let session : Session :=
      { line := { state := {
          answers := [.returned (Frame.ofText ":1.7"), .returned (Frame.ofText ":1.9"),
            .returned (Frame.ofText "done")]
          afterwards := .hungUp } } }
    requestsOf (session.reports
        [.find "org.ganesha.nfsd" "/org/ganesha/nfsd/CBSIM" none, .owner "org.ganesha.nfsd",
          .call 0 "method1" "GETCLIENTIDS"]) =
      [Daemon.ownerRequest "org.ganesha.nfsd", Daemon.ownerRequest "org.ganesha.nfsd",
        { destination := ":1.7", path := "/org/ganesha/nfsd/CBSIM", interface := none
          member := "method1", arguments := [.text "GETCLIENTIDS"] }] := by
  rfl

end SessionProbe.Bus
