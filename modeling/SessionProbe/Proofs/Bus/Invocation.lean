import SessionProbe.Proofs.Bus.RemoteObject
import SessionProbe.Proofs.Wire.Frame
import SessionProbe.Proofs.Wire.Slice

set_option autoImplicit false

/-!
What a call comes to. The answer alone decides: a return is read as a reply, and the name of an
error reply tells which error is reported. The body of an error reply shows only in the message of
a remote error, and no body can change the kind of error.
-/

namespace SessionProbe.Bus

/-! ### Names of errors -/

theorem StandardError.ofName?_eq_some_iff (name : String) (standard : StandardError) :
    StandardError.ofName? name = some standard ↔ name = standard.name := by
  constructor
  · intro found
    unfold StandardError.ofName? at found
    have same := List.find?_some found
    exact (eq_of_beq same).symm
  · rintro rfl
    cases standard <;> rfl

theorem StandardError.ofName?_eq_none_iff (name : String) :
    StandardError.ofName? name = none ↔ ∀ standard : StandardError, name ≠ standard.name := by
  constructor
  · intro missing standard same
    rw [(StandardError.ofName?_eq_some_iff name standard).mpr same] at missing
    cases missing
  · intro unknown
    cases found : StandardError.ofName? name with
    | none => rfl
    | some standard =>
        exact absurd ((StandardError.ofName?_eq_some_iff name standard).mp found)
          (unknown standard)

/-! ### Which name gives which error -/

section Classify

variable (name : String) (detail : Option String) (target : CallTarget)

theorem classify_eq_serviceUnknown_iff (service : String) :
    classify name detail target = .serviceUnknown service ↔ service = target.service ∧
      (name = StandardError.serviceUnknown.name ∨ name = StandardError.nameHasNoOwner.name) := by
  rw [← StandardError.ofName?_eq_some_iff, ← StandardError.ofName?_eq_some_iff, classify]
  cases StandardError.ofName? name with
  | none => simp
  | some standard => cases standard <;> simp [eq_comm]

theorem classify_eq_objectNotFound_iff (service path : String) :
    classify name detail target = .objectNotFound service path ↔
      service = target.service ∧ path = target.path ∧
        name = StandardError.unknownObject.name := by
  rw [← StandardError.ofName?_eq_some_iff, classify]
  cases StandardError.ofName? name with
  | none => simp
  | some standard => cases standard <;> simp [eq_comm]

theorem classify_eq_methodUnknown_iff (path method : String) :
    classify name detail target = .methodUnknown path method ↔
      path = target.path ∧ method = target.method ∧
        (name = StandardError.unknownMethod.name ∨ name = StandardError.unknownInterface.name) := by
  rw [← StandardError.ofName?_eq_some_iff, ← StandardError.ofName?_eq_some_iff, classify]
  cases StandardError.ofName? name with
  | none => simp
  | some standard => cases standard <;> simp [eq_comm]

theorem classify_eq_remote_iff (other message : String) :
    classify name detail target = .remote other message ↔
      other = name ∧ message = detail.getD "" ∧
        ∀ standard : StandardError, name ≠ standard.name := by
  rw [← StandardError.ofName?_eq_none_iff, classify]
  cases StandardError.ofName? name with
  | none => simp [eq_comm]
  | some standard => cases standard <;> simp

theorem classify_cases :
    (∃ service, classify name detail target = .serviceUnknown service) ∨
      (∃ service path, classify name detail target = .objectNotFound service path) ∨
      (∃ path method, classify name detail target = .methodUnknown path method) ∨
      ∃ other message, classify name detail target = .remote other message := by
  unfold classify
  cases StandardError.ofName? name with
  | none => simp
  | some standard => cases standard <;> simp

/-- The detail shows in the message of a remote error and nowhere else. -/
theorem classify_detail (other : Option String) :
    classify name detail target = classify name other target ∨
      ∃ message further, classify name detail target = .remote name message ∧
        classify name other target = .remote name further := by
  unfold classify
  cases StandardError.ofName? name with
  | none => exact Or.inr ⟨_, _, rfl, rfl⟩
  | some standard => cases standard <;> exact Or.inl rfl

end Classify

/-! ### Details of errors -/

/-- A body starts with a text, written in the byte order of the body. -/
structure StartsWithText (body : Wire.Body) (text : String) : Prop where
  clean : '\x00' ∉ text.toList
  small : body.octets.size < 256 ^ 4
  starts : body.order.text 0 text <+: body.octets.toList

theorem errorDetail_of_text {frame : Frame} {text : String}
    (starts : StartsWithText frame.body text) : errorDetail frame = some text := by
  obtain ⟨back, whole⟩ := starts.starts
  have holds : frame.body.Holds 0 (frame.body.order.text 0 text) := ⟨[], back, by simp [whole], rfl⟩
  have read : Wire.Slice.text ⟨frame.body, 0⟩ 0 = .ok text _ :=
    Wire.Slice.text_eq_ok holds starts.clean starts.small
  rw [errorDetail, Wire.Body.text, read]

theorem errorDetail_of_empty {frame : Frame} (empty : frame.body.octets = #[]) :
    errorDetail frame = none := by
  obtain ⟨signature, order, octets⟩ := frame
  subst empty
  rfl

/-! ### The laws -/

/-- What a call that was answered by an error reply results in. -/
structure RefusalLaw (object : RemoteObject) (method name : String) (frame : Frame)
    (result : Except BusError Reply) : Prop where
  serviceUnknown : ∀ service, result = .error (.serviceUnknown service) ↔
    service = object.service ∧
      (name = StandardError.serviceUnknown.name ∨ name = StandardError.nameHasNoOwner.name)
  objectNotFound : ∀ service path, result = .error (.objectNotFound service path) ↔
    service = object.service ∧ path = object.path ∧ name = StandardError.unknownObject.name
  methodUnknown : ∀ path member, result = .error (.methodUnknown path member) ↔
    path = object.path ∧ member = method ∧
      (name = StandardError.unknownMethod.name ∨ name = StandardError.unknownInterface.name)
  remote : ∀ other message, result = .error (.remote other message) ↔
    other = name ∧ message = (errorDetail frame).getD "" ∧
      ∀ standard : StandardError, name ≠ standard.name
  /-- There is no fifth way to end. -/
  ends : (∃ service, result = .error (.serviceUnknown service)) ∨
    (∃ service path, result = .error (.objectNotFound service path)) ∨
    (∃ path member, result = .error (.methodUnknown path member)) ∨
    ∃ other message, result = .error (.remote other message)
  /-- The text that a body starts with is its detail, and an empty body has none. -/
  detail : (∀ text, StartsWithText frame.body text → errorDetail frame = some text) ∧
    (frame.body.octets = #[] → errorDetail frame = none)

/-- What a call results in, told from the answer alone. -/
structure InvocationLaw (object : RemoteObject) (method : String) (answer : Answer)
    (result : Except BusError Reply) : Prop where
  returned : ∀ frame, answer = .returned frame → result = Reply.ofFrame frame
  failed : ∀ name frame, answer = .failed name frame → RefusalLaw object method name frame result
  hungUp : answer = .hungUp → ∃ fault, result = .error (.transport fault)
  /-- Only a return can be impossible to read. -/
  unreadable : ∀ text, result = .error (.reply text) → ∃ frame, answer = .returned frame

variable {object : RemoteObject} {method argument : String}

theorem classify_refusalLaw (object : RemoteObject) (method name : String) (frame : Frame) :
    RefusalLaw object method name frame
      (.error (classify name (errorDetail frame) (object.target method))) := by
  simp only [RemoteObject.target]
  constructor
  · intro service
    rw [Except.error.injEq, classify_eq_serviceUnknown_iff]
  · intro service path
    rw [Except.error.injEq, classify_eq_objectNotFound_iff]
  · intro path member
    rw [Except.error.injEq, classify_eq_methodUnknown_iff]
  · intro other message
    rw [Except.error.injEq, classify_eq_remote_iff]
  · simp only [Except.error.injEq]
    exact classify_cases name _ _
  · exact ⟨fun _ => errorDetail_of_text, errorDetail_of_empty⟩

theorem reply_ne_unreadable {answer : Answer} {target : CallTarget} {text : String}
    (unreadable : answer.reply target = .error (.reply text)) : ∃ frame, answer = .returned frame := by
  cases answer with
  | returned frame => exact ⟨frame, rfl⟩
  | failed name frame =>
      simp only [Answer.reply, Except.error.injEq] at unreadable
      have ends := classify_cases name (errorDetail frame) target
      simp [unreadable] at ends
  | hungUp => simp [Answer.reply] at unreadable

theorem reply_invocationLaw (object : RemoteObject) (method : String) (answer : Answer) :
    InvocationLaw object method answer (answer.reply (object.target method)) := by
  constructor
  · rintro frame rfl
    rfl
  · rintro name frame rfl
    exact classify_refusalLaw object method name frame
  · rintro rfl
    exact ⟨closedLine, rfl⟩
  · intro text unreadable
    exact reply_ne_unreadable unreadable

/-- A call that can be sent results in what its answer comes to. -/
theorem call_session_run (reachable : Name.checkBus object.destination = .ok ())
    (named : Name.check .method method = .ok ()) (clean : '\x00' ∉ argument.toList)
    (session : Session) :
    (session.run (object.call method argument)).1 =
      (session.line.state.answer 0).reply (object.target method) := by
  have sendable : (object.request method argument).problem? = none := by
    rw [Request.problem?_eq_none_iff]
    refine ⟨reachable, ?_⟩
    intro text member
    cases List.mem_singleton.mp member
    exact clean
  have answered := call_yields ((validate_eq_ok_iff _ _).mpr named) sendable session.line.state []
  rw [Line.afterAll_nil] at answered
  obtain ⟨entries, ran⟩ := answered.session_run
  rw [ran]
  rfl

/-- A call that can be sent keeps the law of invocation on every line, and two error replies of one
name differ at most in the message of a remote error. -/
theorem call_invocation_law (reachable : Name.checkBus object.destination = .ok ())
    (named : Name.check .method method = .ok ()) (clean : '\x00' ∉ argument.toList) :
    (∀ session : Session, InvocationLaw object method (session.line.state.answer 0)
      (session.run (object.call method argument)).1) ∧
    ∀ (one two : Session) (name : String) (left right : Frame),
      one.line.state.answer 0 = .failed name left → two.line.state.answer 0 = .failed name right →
        (one.run (object.call method argument)).1 = (two.run (object.call method argument)).1 ∨
          ∃ message further,
            (one.run (object.call method argument)).1 = .error (.remote name message) ∧
            (two.run (object.call method argument)).1 = .error (.remote name further) := by
  constructor
  · intro session
    rw [call_session_run reachable named clean]
    exact reply_invocationLaw object method _
  · intro one two name left right first second
    rw [call_session_run reachable named clean, call_session_run reachable named clean, first,
      second]
    simp only [Answer.reply, Except.error.injEq]
    exact classify_detail name _ _ _

/-- An object that was found under a name and is called under the unique name of its owner. -/
def simulator : RemoteObject where
  service := "org.ganesha.nfsd"
  destination := ":1.7"
  path := "/org/ganesha/nfsd/CBSIM"
  interface := none

theorem simulator_invocation_law :
    Name.checkBus simulator.destination = .ok () ∧ Name.check .method "method1" = .ok () ∧
      '\x00' ∉ "GETCLIENTIDS".toList ∧
      (∀ session : Session, InvocationLaw simulator "method1" (session.line.state.answer 0)
        (session.run (simulator.call "method1" "GETCLIENTIDS")).1) ∧
      ∀ (one two : Session) (name : String) (left right : Frame),
        one.line.state.answer 0 = .failed name left →
        two.line.state.answer 0 = .failed name right →
          (one.run (simulator.call "method1" "GETCLIENTIDS")).1 =
              (two.run (simulator.call "method1" "GETCLIENTIDS")).1 ∨
            ∃ message further,
              (one.run (simulator.call "method1" "GETCLIENTIDS")).1 =
                .error (.remote name message) ∧
              (two.run (simulator.call "method1" "GETCLIENTIDS")).1 =
                .error (.remote name further) := by
  have reachable : Name.checkBus simulator.destination = .ok () := by rfl
  have named : Name.check .method "method1" = .ok () := by rfl
  have clean : '\x00' ∉ "GETCLIENTIDS".toList := by decide
  exact ⟨reachable, named, clean, call_invocation_law reachable named clean⟩

/-- An error of the service's own is reported with the text of its body. -/
example :
    (Session.run { line := { state := {
        answers := [.failed "org.ganesha.nfsd.Error.Busy" (Frame.ofText "callback channel down")]
        afterwards := .hungUp } } } (simulator.call "method1" "GETCLIENTIDS")).1 =
      .error (.remote "org.ganesha.nfsd.Error.Busy" "callback channel down") := by
  rfl

end SessionProbe.Bus
