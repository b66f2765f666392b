set_option autoImplicit false

/-!
Steps one after the other, each with a report: what every recursion over steps has in common.
-/

namespace SessionProbe.Trail

variable {State Input Report : Type} (step : State → Input → Report × State)

def after (state : State) (inputs : List Input) : State :=
  inputs.foldl (fun state input => (step state input).2) state

def reports (state : State) : List Input → List Report
  | [] => []
  | input :: rest => (step state input).1 :: reports (step state input).2 rest

variable (state : State) (inputs : List Input)

theorem after_append (more : List Input) :
    after step state (inputs ++ more) = after step (after step state inputs) more := by
  exact List.foldl_append

@[simp]
theorem length_reports : (reports step state inputs).length = inputs.length := by
  induction inputs generalizing state with
  | nil => rfl
  | cons input rest ih =>
      rw [reports, List.length_cons, List.length_cons, ih]

/-- Each report is that of the step from where the steps before it led. -/
theorem getElem?_reports (n : Nat) :
    (reports step state inputs)[n]? =
      inputs[n]?.map fun input => (step (after step state (inputs.take n)) input).1 := by
  induction inputs generalizing state n with
  | nil => rfl
  | cons input rest ih =>
      cases n with
      | zero => rfl
      | succ n =>
          rw [reports, List.getElem?_cons_succ, List.getElem?_cons_succ, List.take_succ_cons]
          exact ih _ _

variable {inputs}

theorem after_take_succ {n : Nat} {input : Input} (taken : inputs[n]? = some input) :
    after step state (inputs.take (n + 1)) =
      (step (after step state (inputs.take n)) input).2 := by
  rw [List.take_add_one, taken, after_append]
  rfl

end SessionProbe.Trail
