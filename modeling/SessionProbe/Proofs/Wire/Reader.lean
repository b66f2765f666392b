import Mathlib.Data.List.Forall2
import SessionProbe.Wire.Slice

set_option autoImplicit false

/-!
Readers told by their parts. `Reader.Gives` says what holds of every value that a reader gives, and
`Reader.Within` that whatever one reader reads another one reads as well, with the same position
behind it. Each has one rule for every way of putting readers together. Nothing is said of readings
that fail.
-/

namespace SessionProbe.Wire

variable {α β : Type}

theorem Reader.bind_eq_ok {read : Reader α} {next : α → Reader β} {value : β}
    {position last : Nat} (whole : (read >>= next) position = .ok value last) :
    ∃ first middle, read position = .ok first middle ∧ next first middle = .ok value last := by
  change EStateM.bind read next position = _ at whole
  unfold EStateM.bind at whole
  cases first : read position with
  | ok part middle =>
      rw [first] at whole
      exact ⟨part, middle, rfl, whole⟩
  | error fault middle =>
      rw [first] at whole
      cases whole

/-! ### What a reader gives -/

/-- Every value that is read has a property, from whatever position the reading starts. -/
def Reader.Gives (read : Reader α) (holds : α → Prop) : Prop :=
  ∀ position value next, read position = .ok value next → holds value

section Gives

variable {read : Reader α} {next : α → Reader β} {holds : α → Prop} {later : β → Prop}

theorem Reader.gives_pure {value : α} (here : holds value) :
    Reader.Gives (pure value) holds := by
  intro position other next read
  cases read
  exact here

theorem Reader.gives_throw (fault : Fault) : Reader.Gives (throw fault) holds := by
  intro position value next read
  cases read

theorem Reader.gives_ofExcept {ε : Type} (outcome : Except ε α) (fault : ε → Fault) :
    Reader.Gives (MonadExcept.ofExcept (outcome.mapError fault)) fun value =>
      outcome = .ok value := by
  cases outcome with
  | ok value => exact Reader.gives_pure rfl
  | error reason => exact Reader.gives_throw (fault reason)

theorem Reader.Gives.bind (first : Reader.Gives read holds)
    (rest : ∀ value, holds value → Reader.Gives (next value) later) :
    Reader.Gives (read >>= next) later := by
  intro position value last whole
  obtain ⟨part, middle, here, behind⟩ := Reader.bind_eq_ok whole
  exact rest part (first _ _ _ here) _ _ _ behind

/-- What the first reading gives need not matter to the rest. -/
theorem Reader.gives_bind (rest : ∀ value, Reader.Gives (next value) later) :
    Reader.Gives (read >>= next) later :=
  Reader.Gives.bind (fun _ _ _ _ => trivial) fun value (_ : True) => rest value

theorem Reader.gives_ite {condition : Prop} [Decidable condition] {other : Reader α}
    (one : Reader.Gives read holds) (two : Reader.Gives other holds) :
    Reader.Gives (if condition then read else other) holds := by
  by_cases chosen : condition
  · rw [if_pos chosen]
    exact one
  · rw [if_neg chosen]
    exact two

theorem Reader.Gives.upTo (each : Reader.Gives read holds) (stop fuel : Nat) :
    Reader.Gives (Reader.upTo stop read fuel) fun values => ∀ value ∈ values, holds value := by
  have empty : ∀ value ∈ ([] : List α), holds value := fun value member => nomatch member
  induction fuel with
  | zero =>
      rw [Reader.upTo]
      refine Reader.gives_bind fun position => ?_
      exact Reader.gives_ite (Reader.gives_pure empty) (Reader.gives_throw _)
  | succ fuel ih =>
      rw [Reader.upTo]
      refine Reader.gives_bind fun position => Reader.gives_ite (Reader.gives_pure empty) ?_
      refine each.bind fun value here => ih.bind fun values behind => ?_
      exact Reader.gives_pure (List.forall_mem_cons.mpr ⟨here, behind⟩)

/-- Reading one value of each type, and so on: each value has the property of its own item. -/
theorem Reader.gives_each {reads : α → Reader β} {fits : α → β → Prop}
    (each : ∀ item, Reader.Gives (reads item) (fits item)) (items : List α) :
    Reader.Gives (Reader.each reads items) (List.Forall₂ fits items) := by
  induction items with
  | nil => exact Reader.gives_pure List.Forall₂.nil
  | cons item rest ih =>
      refine (each item).bind fun value here => ih.bind fun values behind => ?_
      exact Reader.gives_pure (List.Forall₂.cons here behind)

theorem Slice.element_gives {slice : Slice} {start length : Nat} {reads : Slice → Reader α}
    (inner : ∀ part, Reader.Gives (reads part) holds) :
    Reader.Gives (slice.element start length reads) holds := by
  intro position value next found
  unfold Slice.element at found
  split at found
  · cases found
  · split at found
    · rename_i part last first
      split at found
      · cases found
      · cases found
        exact inner _ _ _ _ first
    · split at found <;> cases found

/-- What stands behind the gap in front of an array or dictionary gives what its items give. -/
theorem Slice.elements_gives {slice : Slice} {alignment : Nat}
    {item : (length start : Nat) → Reader α} {whole : List α → β}
    (all : ∀ items, (∀ item ∈ items, holds item) → later (whole items))
    (each : ∀ length start, Reader.Gives (item length start) holds) :
    Reader.Gives
      (do
        let length ← slice.number 4
        slice.pad alignment
        let start ← get
        return whole (← Reader.upTo (start + length) (item length start) length)) later := by
  refine Reader.gives_bind fun length => ?_
  refine Reader.gives_bind fun _ => ?_
  refine Reader.gives_bind fun start => ?_
  refine ((each length start).upTo _ _).bind fun items held => ?_
  exact Reader.gives_pure (all items held)

end Gives

/-! ### Readers that read the same -/

/-- Whatever the one reader reads, the other reads as well, and it stops at the same position. -/
def Reader.Within (read other : Reader α) : Prop :=
  ∀ position value next, read position = .ok value next → other position = .ok value next

section Within

variable {read other : Reader α} {next later : α → Reader β}

theorem Reader.Within.refl (read : Reader α) : Reader.Within read read :=
  fun _ _ _ here => here

theorem Reader.throw_within (fault : Fault) (other : Reader α) :
    Reader.Within (throw fault) other := by
  intro position value next here
  cases here

theorem Reader.Within.bind (first : Reader.Within read other)
    (rest : ∀ value, Reader.Within (next value) (later value)) :
    Reader.Within (read >>= next) (other >>= later) := by
  intro position value last whole
  obtain ⟨part, middle, here, behind⟩ := Reader.bind_eq_ok whole
  change EStateM.bind other later position = _
  unfold EStateM.bind
  rw [first _ _ _ here]
  exact rest part _ _ _ behind

/-- Only the first of two readers looks further: what follows is the same reader. -/
theorem Reader.Within.bind_left (first : Reader.Within read other) (next : α → Reader β) :
    Reader.Within (read >>= next) (other >>= next) :=
  first.bind fun value => Reader.Within.refl (next value)

theorem Reader.Within.upTo (each : Reader.Within read other) (stop fuel : Nat) :
    Reader.Within (Reader.upTo stop read fuel) (Reader.upTo stop other fuel) := by
  induction fuel with
  | zero => exact Reader.Within.refl _
  | succ fuel ih =>
      rw [Reader.upTo, Reader.upTo]
      refine (Reader.Within.refl _).bind fun position => ?_
      by_cases done : position = stop
      · rw [if_pos done, if_pos done]
        exact Reader.Within.refl _
      · rw [if_neg done, if_neg done]
        exact each.bind fun value => ih.bind_left _

theorem Reader.within_each {reads others : β → Reader α}
    (each : ∀ item, Reader.Within (reads item) (others item)) (items : List β) :
    Reader.Within (Reader.each reads items) (Reader.each others items) := by
  induction items with
  | nil => exact Reader.Within.refl _
  | cons item rest ih => exact (each item).bind fun value => ih.bind_left _

end Within

end SessionProbe.Wire
