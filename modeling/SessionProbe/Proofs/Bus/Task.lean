import SessionProbe.Bus.Session

set_option autoImplicit false

/-!
What a task does, told without its journal. `Yields` states the result of a task and the state it
leaves; the journal may only grow meanwhile, and no task depends on what it holds. One rule for
each way of putting tasks together carries this from the parts to the whole.
-/

namespace SessionProbe.Bus

variable {σ α β : Type}

def ended {ε : Type} (result : Except ε α) (state : σ) : EStateM.Result ε σ α :=
  match result with
  | .ok value => .ok value state
  | .error error => .error error state

/-- Whatever the journal holds, the task ends with the result, leads from one state to the other
and only adds to the journal. -/
def Yields (task : Task σ α) (before : σ) (result : Except BusError α) (after : σ) : Prop :=
  ∀ journal, ∃ entries,
    task { state := before, journal } = ended result { state := after, journal := journal ++ entries }

theorem bind_apply {ε : Type} (first : EStateM ε σ α) (next : α → EStateM ε σ β) (state : σ) :
    (first >>= next) state =
      match first state with
      | .ok value state => next value state
      | .error error state => .error error state := by
  change EStateM.bind first next state = _
  unfold EStateM.bind
  cases first state <;> rfl

/-! ### Tasks without parts -/

theorem yields_pure (value : α) (state : σ) :
    Yields (pure value : Task σ α) state (.ok value) state := by
  intro journal
  refine ⟨[], ?_⟩
  rw [List.append_nil]
  rfl

theorem yields_throw (error : BusError) (state : σ) :
    Yields (throw error : Task σ α) state (.error error) state := by
  intro journal
  refine ⟨[], ?_⟩
  rw [List.append_nil]
  rfl

theorem yields_ofExcept (result : Except BusError α) (state : σ) :
    Yields (MonadExcept.ofExcept result : Task σ α) state result state := by
  cases result with
  | ok value => exact yields_pure value state
  | error error => exact yields_throw error state

theorem yields_note (level : Journal.Level) (topic : Journal.Topic) (message : String)
    (state : σ) : Yields (note level topic message) state (.ok ()) state := by
  intro journal
  exact ⟨[{ level, topic, message }], rfl⟩

/-! ### Tasks one after the other -/

variable {before middle after : σ} {first : Task σ α} {next : α → Task σ β}

theorem Yields.bind {value : α} {result : Except BusError β}
    (done : Yields first before (.ok value) middle)
    (rest : Yields (next value) middle result after) :
    Yields (first >>= next) before result after := by
  intro journal
  obtain ⟨opening, firstRun⟩ := done journal
  obtain ⟨closing, nextRun⟩ := rest (journal ++ opening)
  refine ⟨opening ++ closing, ?_⟩
  rw [← List.append_assoc, ← nextRun, bind_apply, firstRun]
  rfl

theorem Yields.bind_error {error : BusError}
    (failed : Yields first before (.error error) middle) :
    Yields (first >>= next) before (.error error) middle := by
  intro journal
  obtain ⟨entries, firstRun⟩ := failed journal
  refine ⟨entries, ?_⟩
  rw [bind_apply, firstRun]
  rfl

theorem Yields.after_note {level : Journal.Level} {topic : Journal.Topic} {message : String}
    {rest : Unit → Task σ β} {result : Except BusError β}
    (yields : Yields (rest ()) before result after) :
    Yields (note level topic message >>= rest) before result after :=
  (yields_note level topic message before).bind yields

theorem Yields.after_check {rest : α → Task σ β} {check : Except BusError α} {value : α}
    {result : Except BusError β} (passed : check = .ok value)
    (yields : Yields (rest value) before result after) :
    Yields (MonadExcept.ofExcept check >>= rest) before result after := by
  subst passed
  exact (yields_ofExcept (.ok value) before).bind yields

theorem Yields.failed_check {rest : α → Task σ β} {check : Except BusError α} {error : BusError}
    (failed : check = .error error) (state : σ) :
    Yields (MonadExcept.ofExcept check >>= rest) state (.error error) state := by
  subst failed
  exact (yields_ofExcept (.error error) state).bind_error

/-! ### Results -/

theorem Yields.unique {task : Task σ α} {result other : Except BusError α} {left right : σ}
    (one : Yields task before result left) (two : Yields task before other right) :
    result = other ∧ left = right := by
  obtain ⟨opening, oneRun⟩ := one []
  obtain ⟨closing, twoRun⟩ := two []
  rw [oneRun] at twoRun
  cases result <;> cases other <;> simp_all [ended]

/-- A session hands on the result of a task. It stays as it was but for its line and journal. -/
theorem Yields.session_run {session : Session} {task : Task Line α} {result : Except BusError α}
    {after : Line} (yields : Yields task session.line.state result after) :
    ∃ entries, session.run task =
      (result, { session with
        line := { state := after, journal := session.line.journal ++ entries } }) := by
  obtain ⟨entries, ran⟩ := yields session.line.journal
  refine ⟨entries, ?_⟩
  unfold Session.run
  rw [ran]
  cases result <;> rfl

end SessionProbe.Bus
