import SessionProbe.Bus.RemoteObject
import SessionProbe.Proofs.Bus.Task
import SessionProbe.Proofs.Name.Characters

set_option autoImplicit false

/-!
What the answers of a bus come to. Each kind of question has a classifier that turns an answer into
a result without any state, and the question on a line yields just what its classifier says of the
next answer.
-/

namespace SessionProbe.Bus

/-! ### Answers and requests by number -/

/-- The answer that the request of a number meets, the first being number zero. -/
def Line.answer (line : Line) (number : Nat) : Answer :=
  line.answers.getD number line.afterwards

def Line.afterAll (line : Line) (requests : List Request) : Line :=
  { line with
    answers := line.answers.drop requests.length
    requests := line.requests ++ requests }

@[simp]
theorem Line.afterAll_nil (line : Line) : line.afterAll [] = line := by
  simp [Line.afterAll]

theorem Line.next_afterAll (line : Line) (requests : List Request) :
    (line.afterAll requests).next = line.answer requests.length := by
  simp [Line.next, Line.answer, Line.afterAll, List.getD_eq_getElem?_getD, List.headD_eq_head?_getD]

theorem Line.after_afterAll (line : Line) (requests : List Request) (request : Request) :
    (line.afterAll requests).after request = line.afterAll (requests ++ [request]) := by
  simp [Line.after, Line.afterAll, List.append_assoc]

/-! ### What an answer says -/

/-- The answer is a return that reads as the value. -/
def Answer.Returns {ε α : Type} (answer : Answer) (read : Frame → Except ε α) (value : α) : Prop :=
  ∃ frame, answer = .returned frame ∧ read frame = .ok value

/-- The answer is the error which says that nobody owns the name. -/
def Answer.DeniesOwner (answer : Answer) : Prop :=
  ∃ frame, answer = .failed StandardError.nameHasNoOwner.name frame

/-- The fault of a connection that the bus ended. -/
def closedLine : LinkError := .io "failed to read from socket"

def Answer.ownership : Answer → Except BusError (Option String)
  | .returned frame =>
    match readText frame with
    | .ok owner => .ok (some owner)
    | .error fault => .error (.transport fault)
  | .failed name frame =>
    if name = StandardError.nameHasNoOwner.name then .ok none
    else .error (.transport (.methodError name (errorDetail frame)))
  | .hungUp => .error (.transport closedLine)

def Answer.activation (service : String) : Answer → Except BusError Unit
  | .returned frame =>
    match readNumber frame with
    | .ok _ => .ok ()
    | .error fault => .error (.transport fault)
  | .failed _ _ => .error (.serviceUnknown service)
  | .hungUp => .error (.transport closedLine)

def Answer.reply (target : CallTarget) : Answer → Except BusError Reply
  | .returned frame => Reply.ofFrame frame
  | .failed name frame => .error (classify name (errorDetail frame) target)
  | .hungUp => .error (.transport closedLine)

theorem Answer.ownership_eq_some_iff (answer : Answer) (owner : String) :
    answer.ownership = .ok (some owner) ↔ answer.Returns readText owner := by
  cases answer with
  | returned frame =>
      cases text : readText frame <;> simp [Answer.ownership, Answer.Returns, text]
  | failed name frame =>
      by_cases same : name = StandardError.nameHasNoOwner.name <;>
        simp [Answer.ownership, Answer.Returns, same]
  | hungUp =>
      simp [Answer.ownership, Answer.Returns]

theorem Answer.ownership_eq_none_iff (answer : Answer) :
    answer.ownership = .ok none ↔ answer.DeniesOwner := by
  cases answer with
  | returned frame =>
      cases text : readText frame <;> simp [Answer.ownership, Answer.DeniesOwner, text]
  | failed name frame =>
      by_cases same : name = StandardError.nameHasNoOwner.name <;>
        simp [Answer.ownership, Answer.DeniesOwner, same]
  | hungUp =>
      simp [Answer.ownership, Answer.DeniesOwner]

theorem Answer.activation_eq_ok_iff (answer : Answer) (service : String) :
    answer.activation service = .ok () ↔ ∃ number, answer.Returns readNumber number := by
  cases answer with
  | returned frame =>
      cases number : readNumber frame <;> simp [Answer.activation, Answer.Returns, number]
  | failed name frame =>
      simp [Answer.activation, Answer.Returns]
  | hungUp =>
      simp [Answer.activation, Answer.Returns]

theorem Answer.reply_eq_ok_iff (answer : Answer) (target : CallTarget) (reply : Reply) :
    answer.reply target = .ok reply ↔ answer.Returns Reply.ofFrame reply := by
  cases answer <;> simp [Answer.reply, Answer.Returns]

/-! ### Requests that are sent, and requests that are not -/

theorem exchange_refused {request : Request} {problem : LinkError}
    (refused : request.problem? = some problem) (line : Line) :
    Yields (exchange request) line (.ok (.error problem)) line := by
  intro journal
  refine ⟨[], ?_⟩
  simp only [exchange, refused, List.append_nil]
  rfl

theorem exchange_sent {request : Request} (sendable : request.problem? = none) (line : Line)
    (made : List Request) :
    Yields (exchange request) (line.afterAll made) (.ok (line.answer made.length).toExcept)
      (line.afterAll (made ++ [request])) := by
  intro journal
  refine ⟨[], ?_⟩
  simp only [exchange, sendable, List.append_nil]
  rw [← Line.next_afterAll, ← Line.after_afterAll]
  rfl

/-! ### The questions -/

def Daemon.ownerRequest (service : String) : Request :=
  Daemon.request "GetNameOwner" [.text service]

def Daemon.startRequest (service : String) : Request :=
  Daemon.request "StartServiceByName" [.text service, .number 0]

theorem Daemon.ownerRequest_sendable {service : String} (valid : Name.checkBus service = .ok ()) :
    (ownerRequest service).problem? = none :=
  Daemon.request_sendable valid "GetNameOwner" (by simp)

theorem Daemon.startRequest_sendable {service : String} (valid : Name.checkBus service = .ok ()) :
    (startRequest service).problem? = none :=
  Daemon.request_sendable valid "StartServiceByName" (by simp)

variable {service : String} (line : Line)

theorem nameOwner_yields (sendable : (Daemon.ownerRequest service).problem? = none)
    (made : List Request) :
    Yields (Daemon.nameOwner service) (line.afterAll made) (line.answer made.length).ownership
      (line.afterAll (made ++ [Daemon.ownerRequest service])) := by
  refine (exchange_sent sendable line made).bind ?_
  cases line.answer made.length with
  | returned frame =>
      simp only [Answer.toExcept, Answer.ownership]
      cases readText frame with
      | ok owner => exact yields_pure _ _
      | error fault => exact yields_throw _ _
  | failed name frame =>
      simp only [Answer.toExcept, Answer.ownership]
      by_cases denied : name = StandardError.nameHasNoOwner.name
      · rw [if_pos denied, if_pos denied]
        exact yields_pure _ _
      · rw [if_neg denied, if_neg denied]
        exact yields_throw _ _
  | hungUp => exact yields_throw _ _

theorem startService_yields (sendable : (Daemon.startRequest service).problem? = none)
    (made : List Request) :
    Yields (Daemon.startService service) (line.afterAll made)
      ((line.answer made.length).activation service)
      (line.afterAll (made ++ [Daemon.startRequest service])) := by
  refine (exchange_sent sendable line made).bind ?_
  cases line.answer made.length with
  | returned frame =>
      simp only [Answer.toExcept, Answer.activation]
      cases readNumber frame with
      | ok number => exact yields_note _ _ _ _
      | error fault => exact yields_throw _ _
  | failed name frame => exact (yields_throw _ _).after_note
  | hungUp => exact yields_throw _ _

/-- What keeps a request from being sent is never an error reply. -/
theorem Request.problem?_ne_methodError {request : Request} {problem : LinkError}
    (refused : request.problem? = some problem) (name : String) (detail : Option String) :
    problem ≠ .methodError name detail := by
  unfold Request.problem? at refused
  rintro rfl
  split at refused
  · cases refused
  · dsimp only at refused
    split at refused <;> cases refused

theorem nameOwner_refused {problem : LinkError}
    (refused : (Daemon.ownerRequest service).problem? = some problem) :
    Yields (Daemon.nameOwner service) line (.error (.transport problem)) line := by
  refine (exchange_refused refused line).bind ?_
  cases problem with
  | methodError name detail => exact absurd rfl (Request.problem?_ne_methodError refused name detail)
  | _ => exact yields_throw _ _

theorem startService_refused {problem : LinkError}
    (refused : (Daemon.startRequest service).problem? = some problem) :
    Yields (Daemon.startService service) line (.error (.transport problem)) line := by
  refine (exchange_refused refused line).bind ?_
  cases problem with
  | methodError name detail => exact absurd rfl (Request.problem?_ne_methodError refused name detail)
  | _ => exact yields_throw _ _

end SessionProbe.Bus
