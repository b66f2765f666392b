import SessionProbe.Proofs.Bus.Search

set_option autoImplicit false

/-!
Finding an object and calling it. Both check names before they do anything else: the names of the
target when the object is looked for, the name of the method at the call.
-/

namespace SessionProbe.Bus

/-! ### Checks of names -/

def validateAll : List (Name.Kind × String) → Except BusError Unit
  | [] => .ok ()
  | (kind, value) :: rest =>
    match validate kind value with
    | .ok () => validateAll rest
    | .error error => .error error

/-- The names that are checked when an object is looked for, in that order. -/
def targetNames (service path : String) (interface : Option String) : List (Name.Kind × String) :=
  (.service, service) :: (.objectPath, path) :: interface.toList.map fun name => (.interface, name)

/-- The error tells of a name on the list that is malformed, and why it is. -/
def BusError.Rejects (error : BusError) (names : List (Name.Kind × String)) : Prop :=
  ∃ kind value reason, (kind, value) ∈ names ∧ Name.check kind value = .error reason ∧
    error = .invalidName kind value reason.message

theorem BusError.Rejects.mono {error : BusError} {names more : List (Name.Kind × String)}
    (rejects : error.Rejects names) (included : names ⊆ more) : error.Rejects more := by
  obtain ⟨kind, value, reason, member, checked, same⟩ := rejects
  exact ⟨kind, value, reason, included member, checked, same⟩

theorem validate_eq_error {kind : Name.Kind} {value : String} {error : BusError}
    (rejected : validate kind value = .error error) :
    ∃ reason, Name.check kind value = .error reason ∧
      error = .invalidName kind value reason.message := by
  unfold validate at rejected
  split at rejected
  · cases rejected
  · rename_i reason checked
    cases rejected
    exact ⟨reason, checked, rfl⟩

theorem validateAll_eq_ok_iff (names : List (Name.Kind × String)) :
    validateAll names = .ok () ↔ ∀ name ∈ names, Name.check name.1 name.2 = .ok () := by
  induction names with
  | nil => simp [validateAll]
  | cons name rest ih =>
      obtain ⟨kind, value⟩ := name
      rw [List.forall_mem_cons, ← ih, ← validate_eq_ok_iff]
      cases checked : validate kind value <;> simp [validateAll, checked]

theorem validateAll_eq_error {names : List (Name.Kind × String)} {error : BusError}
    (rejected : validateAll names = .error error) : error.Rejects names := by
  induction names with
  | nil => cases rejected
  | cons name rest ih =>
      obtain ⟨kind, value⟩ := name
      simp only [validateAll] at rejected
      split at rejected
      · obtain ⟨other, text, reason, member, checked, same⟩ := ih rejected
        exact ⟨other, text, reason, List.mem_cons_of_mem _ member, checked, same⟩
      · rename_i found failed
        cases rejected
        obtain ⟨reason, checked, same⟩ := validate_eq_error failed
        exact ⟨kind, value, reason, List.mem_cons_self, checked, same⟩

/-! ### Looking for an object -/

variable {service path : String} {interface : Option String}

theorem checkBus_of_targetNames
    (accepted : validateAll (targetNames service path interface) = .ok ()) :
    Name.checkBus service = .ok () := by
  rw [validateAll_eq_ok_iff] at accepted
  have first : (Name.Kind.service, service) ∈ targetNames service path interface :=
    List.mem_cons_self
  exact (Name.check_service_eq_ok_iff service).mp (accepted _ first)

/-- The checks of a search for an object come before the search and make one check of a list. -/
theorem find_eq (service path : String) (interface : Option String) :
    RemoteObject.find service path interface = (do
      MonadExcept.ofExcept (validateAll (targetNames service path interface))
      let destination ← Resolver.daemon.owner service
      note .debug .bus s!"Resolved proxy for {service} ({destination}) at {path}"
      return { service, destination, path, interface }) := by
  unfold RemoteObject.find
  simp only [targetNames, validateAll]
  cases validate .service service with
  | error error => rfl
  | ok nothing =>
      cases validate .objectPath path with
      | error error => rfl
      | ok nothing =>
          cases interface with
          | none => rfl
          | some name =>
              simp only [Option.toList, List.map_cons, List.map_nil, validateAll]
              cases validate .interface name <;> rfl

theorem find_misnamed {error : BusError}
    (rejected : validateAll (targetNames service path interface) = .error error) (line : Line) :
    Yields (RemoteObject.find service path interface) line (.error error) line := by
  rw [find_eq]
  exact Yields.failed_check rejected line

/-- With its names in order, an object is found just when the owner of its service is. -/
theorem find_yields {before after : Line} {result : Except BusError String}
    (accepted : validateAll (targetNames service path interface) = .ok ())
    (search : Yields (Resolver.daemon.owner service) before result after) :
    Yields (RemoteObject.find service path interface) before
      (result.map fun destination => { service, destination, path, interface }) after := by
  rw [find_eq]
  refine Yields.after_check accepted ?_
  cases result with
  | ok destination =>
      refine search.bind ?_
      exact Yields.after_note (yields_pure _ _)
  | error error => exact search.bind_error

/-! ### Calling an object -/

def RemoteObject.target (object : RemoteObject) (method : String) : CallTarget :=
  { service := object.service, path := object.path, method }

variable {object : RemoteObject} {method argument : String}

theorem call_misnamed {error : BusError} (rejected : validate .method method = .error error)
    (line : Line) : Yields (object.call method argument) line (.error error) line :=
  Yields.failed_check rejected line

theorem BusError.ofCall_problem {request : Request} {problem : LinkError}
    (refused : request.problem? = some problem) (target : CallTarget) :
    BusError.ofCall target problem = .transport problem := by
  cases problem with
  | methodError name detail => exact absurd rfl (Request.problem?_ne_methodError refused name detail)
  | _ => rfl

theorem call_refused {problem : LinkError} (accepted : validate .method method = .ok ())
    (refused : (object.request method argument).problem? = some problem) (line : Line) :
    Yields (object.call method argument) line (.error (.transport problem)) line := by
  refine Yields.after_check accepted (Yields.after_note ?_)
  refine (exchange_refused refused line).bind ?_
  rw [← BusError.ofCall_problem refused
    { service := object.service, path := object.path, method }]
  exact yields_throw _ _

theorem call_yields (accepted : validate .method method = .ok ())
    (sendable : (object.request method argument).problem? = none) (line : Line)
    (made : List Request) :
    Yields (object.call method argument) (line.afterAll made)
      ((line.answer made.length).reply { service := object.service, path := object.path, method })
      (line.afterAll (made ++ [object.request method argument])) := by
  refine Yields.after_check accepted (Yields.after_note ?_)
  refine (exchange_sent sendable line made).bind ?_
  cases line.answer made.length with
  | returned frame => exact yields_ofExcept _ _
  | failed name frame => exact yields_throw _ _
  | hungUp => exact yields_throw _ _

end SessionProbe.Bus
