import SessionProbe.Bus.Resolution
import SessionProbe.Proofs.Bus.Task

set_option autoImplicit false

/-!
How services are resolved with any resolver, whatever it remembers and however it answers. A single
resolution goes one of the seven ways that `Goes` lists. Resolutions one after the other share what
the resolver remembers, and `Resolver.resolveAll_discipline` says what is asked over all of them.
-/

namespace SessionProbe.Bus

variable {σ : Type}

/-! ### Inquiries -/

def Inquiry.error? : Inquiry → Option BusError
  | .nameOwner _ (.error error) => some error
  | .startService _ (.error error) => some error
  | _ => none

def Inquiry.isStart : Inquiry → Bool
  | .nameOwner _ _ => false
  | .startService _ _ => true

def Inquiry.isStarted : Inquiry → Bool
  | .startService _ (.ok ()) => true
  | _ => false

/-- Whether a resolver, remembering one thing, answers an inquiry and remembers another thing then.
What it answers may hang on the journal. -/
inductive Resolver.Answers (resolver : Resolver σ) : (before : σ) → Inquiry → (after : σ) → Prop
  | nameOwner {service : String} {answer : Except BusError (Option String)} {before after : σ}
      {journal later : List Journal.Entry}
      (told : resolver.nameOwner service { state := before, journal } =
        ended answer { state := after, journal := later }) :
      Answers resolver before (.nameOwner service answer) after
  | startService {service : String} {answer : Except BusError Unit} {before after : σ}
      {journal later : List Journal.Entry}
      (told : resolver.startService service { state := before, journal } =
        ended answer { state := after, journal := later }) :
      Answers resolver before (.startService service answer) after

/-- Whether a resolver answers inquiries one after the other, each from what it remembers of the
ones before. -/
inductive Resolver.AnswersAll (resolver : Resolver σ) :
    (before : σ) → List Inquiry → (after : σ) → Prop
  | nil (memory : σ) : AnswersAll resolver memory [] memory
  | cons {before middle after : σ} {inquiry : Inquiry} {rest : List Inquiry}
      (first : resolver.Answers before inquiry middle)
      (others : AnswersAll resolver middle rest after) :
      AnswersAll resolver before (inquiry :: rest) after

theorem Resolver.AnswersAll.append {resolver : Resolver σ} {before middle after : σ}
    {inquiries more : List Inquiry} (first : resolver.AnswersAll before inquiries middle)
    (second : resolver.AnswersAll middle more after) :
    resolver.AnswersAll before (inquiries ++ more) after := by
  induction first with
  | nil memory => exact second
  | cons here _ ih => exact .cons here (ih second)

/-! ### One resolution -/

/-- What is asked of a resolver to resolve a service, with the answers, and what comes of it. -/
inductive Goes (service : String) : List Inquiry → Except BusError String → Prop
  /-- A unique name is its own owner, and nobody is asked. -/
  | unique (isUnique : isUniqueName service = true) : Goes service [] (.ok service)
  | running {owner : String} (named : isUniqueName service = false) :
      Goes service [.nameOwner service (.ok (some owner))] (.ok owner)
  | unanswered {error : BusError} (named : isUniqueName service = false) :
      Goes service [.nameOwner service (.error error)] (.error error)
  | notStarted {error : BusError} (named : isUniqueName service = false) :
      Goes service [.nameOwner service (.ok none), .startService service (.error error)]
        (.error error)
  | started {owner : String} (named : isUniqueName service = false) :
      Goes service
        [.nameOwner service (.ok none), .startService service (.ok ()),
          .nameOwner service (.ok (some owner))]
        (.ok owner)
  | lost {error : BusError} (named : isUniqueName service = false) :
      Goes service
        [.nameOwner service (.ok none), .startService service (.ok ()),
          .nameOwner service (.error error)]
        (.error error)
  /-- The service is started and nobody owns it all the same. -/
  | gone (named : isUniqueName service = false) :
      Goes service
        [.nameOwner service (.ok none), .startService service (.ok ()),
          .nameOwner service (.ok none)]
        (.error (.serviceUnknown service))

theorem Inquired.keep_eq {α : Type} (inquiry : Except BusError α → Inquiry) (task : Task σ α)
    (memory : σ) (asked : List Inquiry) (journal : List Journal.Entry) :
    ∃ answer after later,
      task { state := memory, journal } = ended answer { state := after, journal := later } ∧
        Inquired.keep inquiry task { state := { memory, inquiries := asked }, journal } =
          ended answer
            { state := { memory := after, inquiries := asked ++ [inquiry answer] },
              journal := later } := by
  unfold Inquired.keep
  dsimp only
  cases ran : task { state := memory, journal } with
  | ok value inner => exact ⟨.ok value, inner.state, inner.journal, rfl, rfl⟩
  | error error inner => exact ⟨.error error, inner.state, inner.journal, rfl, rfl⟩

section Runs

variable {resolver : Resolver σ} {service : String} {before middle after : Logged σ}

theorem Resolver.owner_of_unique (isUnique : isUniqueName service = true) :
    resolver.owner service before = .ok service before := by
  rw [owner, if_pos isUnique]
  rfl

section Named

variable (named : isUniqueName service = false)
include named

theorem Resolver.owner_of_owned {owner : String}
    (told : resolver.nameOwner service before = .ok (some owner) after) :
    resolver.owner service before = .ok owner after := by
  rw [Resolver.owner, named, if_neg Bool.false_ne_true, bind_apply, told]
  rfl

theorem Resolver.owner_of_unanswered {error : BusError}
    (told : resolver.nameOwner service before = .error error after) :
    resolver.owner service before = .error error after := by
  rw [owner, named, if_neg Bool.false_ne_true, bind_apply, told]

/-- The journal of a search that asks for the service to be started. -/
def requested (service : String) (logged : Logged σ) : Logged σ :=
  let message := s!"{service} has no owner, requesting activation"
  { logged with journal := logged.journal ++ [{ level := .info, topic := .bus, message }] }

theorem Resolver.owner_of_unowned
    (told : resolver.nameOwner service before = .ok none middle) :
    resolver.owner service before =
      (do
        resolver.startService service
        match ← resolver.nameOwner service with
        | some owner => return owner
        | none => throw (.serviceUnknown service) : Task σ String) (requested service middle) := by
  rw [owner, named, if_neg Bool.false_ne_true, bind_apply, told]
  rfl

theorem Resolver.owner_of_notStarted {error : BusError}
    (told : resolver.nameOwner service before = .ok none middle)
    (refused : resolver.startService service (requested service middle) = .error error after) :
    resolver.owner service before = .error error after := by
  rw [owner_of_unowned named told, bind_apply, refused]

variable {last : Logged σ}
  (told : resolver.nameOwner service before = .ok none middle)
  (active : resolver.startService service (requested service middle) = .ok () after)
include told active

theorem Resolver.owner_of_started {owner : String}
    (again : resolver.nameOwner service after = .ok (some owner) last) :
    resolver.owner service before = .ok owner last := by
  rw [owner_of_unowned named told, bind_apply, active]
  dsimp only
  rw [bind_apply, again]
  rfl

theorem Resolver.owner_of_lost {error : BusError}
    (again : resolver.nameOwner service after = .error error last) :
    resolver.owner service before = .error error last := by
  rw [owner_of_unowned named told, bind_apply, active]
  dsimp only
  rw [bind_apply, again]

theorem Resolver.owner_of_gone (again : resolver.nameOwner service after = .ok none last) :
    resolver.owner service before = .error (.serviceUnknown service) last := by
  rw [owner_of_unowned named told, bind_apply, active]
  dsimp only
  rw [bind_apply, again]
  rfl

end Named

end Runs

/-! ### Resolutions -/

/-- What a resolution shows of its search, which does not depend on anyone keeping its inquiries. -/
structure Resolver.Searches (resolver : Resolver σ) (memory : σ) (resolution : Resolution)
    (after : σ) : Prop where
  goes : Goes resolution.service resolution.inquiries resolution.owner
  answered : resolver.AnswersAll memory resolution.inquiries after
  found : resolver.owner resolution.service { state := memory } =
    ended resolution.owner { state := after, journal := resolution.journal }

theorem Resolver.resolve_eq {resolver : Resolver σ} {memory after : σ} {service : String}
    {owner : Except BusError String} {inquiries : List Inquiry} {journal : List Journal.Entry}
    (ran : resolver.inquired.owner service { state := { memory } } =
      ended owner { state := { memory := after, inquiries }, journal }) :
    resolver.resolve memory service = ({ service, owner, inquiries, journal }, after) := by
  unfold resolve
  rw [ran]
  cases owner <;> rfl

theorem Resolver.resolve_searches (resolver : Resolver σ) (memory : σ) (service : String) :
    ∃ resolution after, resolver.resolve memory service = (resolution, after) ∧
      resolution.service = service ∧ resolver.Searches memory resolution after := by
  cases named : isUniqueName service with
  | true =>
      exact ⟨_, _, Resolver.resolve_eq (Resolver.owner_of_unique named), rfl,
        .unique named, .nil memory, Resolver.owner_of_unique named⟩
  | false =>
      -- Each answer is taken apart twice at once: of the resolver, and of the one that keeps its
      -- inquiries, which go the same way.
      obtain ⟨answer, middle, journal, told, kept⟩ :=
        Inquired.keep_eq (.nameOwner service) (resolver.nameOwner service) memory [] []
      have first := Resolver.Answers.nameOwner told
      cases answer with
      | error error =>
          exact ⟨_, _, Resolver.resolve_eq (Resolver.owner_of_unanswered named kept), rfl,
            .unanswered named, .cons first (.nil _), Resolver.owner_of_unanswered named told⟩
      | ok found =>
          cases found with
          | some owner =>
              exact ⟨_, _, Resolver.resolve_eq (Resolver.owner_of_owned named kept), rfl,
                .running named, .cons first (.nil _), Resolver.owner_of_owned named told⟩
          | none =>
              obtain ⟨start, active, journal, told', kept'⟩ :=
                Inquired.keep_eq (.startService service) (resolver.startService service) middle
                  [.nameOwner service (.ok none)] (requested service ⟨middle, journal⟩).journal
              have second := Resolver.Answers.startService told'
              cases start with
              | error error =>
                  exact ⟨_, _,
                    Resolver.resolve_eq (Resolver.owner_of_notStarted named kept kept'), rfl,
                    .notStarted named, .cons first (.cons second (.nil _)),
                    Resolver.owner_of_notStarted named told told'⟩
              | ok done =>
                  obtain ⟨again, after, journal, told'', kept''⟩ :=
                    Inquired.keep_eq (.nameOwner service) (resolver.nameOwner service) active
                      [.nameOwner service (.ok none), .startService service (.ok ())] journal
                  have third := Resolver.Answers.nameOwner told''
                  have answered :=
                    Resolver.AnswersAll.cons first (.cons second (.cons third (.nil _)))
                  cases again with
                  | error error =>
                      exact ⟨_, _,
                        Resolver.resolve_eq (Resolver.owner_of_lost named kept kept' kept''), rfl,
                        .lost named, answered, Resolver.owner_of_lost named told told' told''⟩
                  | ok found =>
                      cases found with
                      | some owner =>
                          exact ⟨_, _,
                            Resolver.resolve_eq (Resolver.owner_of_started named kept kept' kept''),
                            rfl, .started named, answered,
                            Resolver.owner_of_started named told told' told''⟩
                      | none =>
                          exact ⟨_, _,
                            Resolver.resolve_eq (Resolver.owner_of_gone named kept kept' kept''),
                            rfl, .gone named, answered,
                            Resolver.owner_of_gone named told told' told''⟩

/-! ### What is asked -/

section Course

variable {service : String} {inquiries : List Inquiry} {result : Except BusError String}
  (goes : Goes service inquiries result)
include goes

theorem Goes.service_eq : ∀ inquiry ∈ inquiries, inquiry.service = service := by
  cases goes <;> simp [Inquiry.service]

theorem Goes.countP_isStart_le : inquiries.countP Inquiry.isStart ≤ 1 := by
  cases goes <;> simp [List.countP_cons, Inquiry.isStart]

/-- A question for each service that is no unique name, and one more for each start. -/
theorem Goes.countP_questions :
    inquiries.countP (fun inquiry => !inquiry.isStart) =
      (if isUniqueName service then 0 else 1) + inquiries.countP Inquiry.isStarted := by
  cases goes <;> simp_all [List.countP_cons, Inquiry.isStart, Inquiry.isStarted]

/-- A start stands right behind the answer that nobody owns the service. -/
theorem Goes.around_start {before behind : List Inquiry} {other : String}
    {answer : Except BusError Unit}
    (shape : inquiries = before ++ .startService other answer :: behind) :
    before = [.nameOwner other (.ok none)] ∧
      (answer = .ok () ↔ ∃ again, behind = [.nameOwner other again]) := by
  cases goes <;> rcases before with _ | ⟨first, _ | ⟨second, _ | ⟨third, _ | ⟨fourth, rest⟩⟩⟩⟩ <;>
    cases shape <;> simp

theorem Goes.stops {before behind : List Inquiry} {inquiry : Inquiry} {error : BusError}
    (shape : inquiries = before ++ inquiry :: behind) (failed : inquiry.error? = some error) :
    behind = [] ∧ result = .error error := by
  cases goes <;> rcases before with _ | ⟨first, _ | ⟨second, _ | ⟨third, _ | ⟨fourth, rest⟩⟩⟩⟩ <;>
    cases shape <;> cases failed <;> exact ⟨rfl, rfl⟩

theorem Goes.eq_ok_iff (owner : String) :
    result = .ok owner ↔
      (∃ other, inquiries.getLast? = some (.nameOwner other (.ok (some owner)))) ∨
        isUniqueName service = true ∧ owner = service := by
  cases goes with
  | unique isUnique => simp [isUnique, eq_comm]
  | _ named => simp [named]

/-- A search that fails although the resolver never did is one that started the service in vain. -/
theorem Goes.in_vain {error : BusError} (failed : result = .error error)
    (answered : ∀ inquiry ∈ inquiries, inquiry.error? = none) :
    error = .serviceUnknown service ∧
      inquiries = [.nameOwner service (.ok none), .startService service (.ok ()),
        .nameOwner service (.ok none)] := by
  cases goes with
  | unique isUnique => cases failed
  | running named => cases failed
  | unanswered named => exact nomatch answered _ List.mem_cons_self
  | notStarted named => exact nomatch answered _ (.tail _ List.mem_cons_self)
  | started named => cases failed
  | lost named => exact nomatch answered _ (.tail _ (.tail _ List.mem_cons_self))
  | gone named =>
      cases failed
      exact ⟨rfl, rfl⟩

end Course

/-- What is asked to resolve one service, and what comes of it. -/
structure Resolution.IsOrderly (resolution : Resolution) : Prop where
  ownService : ∀ inquiry ∈ resolution.inquiries, inquiry.service = resolution.service
  startsOnce : resolution.inquiries.countP Inquiry.isStart ≤ 1
  /-- A start follows the answer that nobody owns the service, and one more question follows the
  start just if it succeeds. -/
  aroundStart : ∀ before behind service answer,
    resolution.inquiries = before ++ .startService service answer :: behind →
      before = [.nameOwner service (.ok none)] ∧
        (answer = .ok () ↔ ∃ again, behind = [.nameOwner service again])
  /-- Only the owner answered last is found, or a unique name itself. -/
  found_iff : ∀ owner, resolution.owner = .ok owner ↔
    (∃ service, resolution.inquiries.getLast? = some (.nameOwner service (.ok (some owner)))) ∨
      isUniqueName resolution.service = true ∧ owner = resolution.service
  /-- An error of the resolver ends the search and is its result. -/
  stops : ∀ before behind inquiry error, resolution.inquiries = before ++ inquiry :: behind →
    inquiry.error? = some error → behind = [] ∧ resolution.owner = .error error
  /-- The search itself fails only where a start was in vain. -/
  inVain : ∀ error, resolution.owner = .error error →
    (∀ inquiry ∈ resolution.inquiries, inquiry.error? = none) →
      error = .serviceUnknown resolution.service ∧
        resolution.inquiries = [.nameOwner resolution.service (.ok none),
          .startService resolution.service (.ok ()), .nameOwner resolution.service (.ok none)]

theorem Resolver.Searches.isOrderly {resolver : Resolver σ} {memory after : σ}
    {resolution : Resolution} (search : resolver.Searches memory resolution after) :
    resolution.IsOrderly where
  ownService := search.goes.service_eq
  startsOnce := search.goes.countP_isStart_le
  aroundStart _ _ _ _ := search.goes.around_start
  found_iff := search.goes.eq_ok_iff
  stops _ _ _ _ := search.goes.stops
  inVain _ := search.goes.in_vain

/-! ### Resolutions one after the other -/

/-- What holds of services that are resolved one after the other with one resolver. -/
structure Resolver.Discipline (resolver : Resolver σ) (memory : σ) (services : List String)
    (resolutions : List Resolution) (last : σ) : Prop where
  inOrder : resolutions.map (·.service) = services
  /-- Each inquiry starts from what the resolver remembers of all before it, also of those that
  were made for other services. -/
  answered : resolver.AnswersAll memory (resolutions.flatMap (·.inquiries)) last
  searches : ∀ resolution ∈ resolutions, ∃ before after,
    resolver.Searches before resolution after
  orderly : ∀ resolution ∈ resolutions, resolution.IsOrderly
  /-- There is a question for each service that is no unique name, and one more for each start that
  succeeds. -/
  questions :
    (resolutions.flatMap (·.inquiries)).countP (fun inquiry => !inquiry.isStart) =
      services.countP (fun service => !isUniqueName service) +
        (resolutions.flatMap (·.inquiries)).countP Inquiry.isStarted

theorem Resolver.Discipline.cons {resolver : Resolver σ} {memory middle last : σ}
    {services : List String} {resolution : Resolution} {resolutions : List Resolution}
    (search : resolver.Searches memory resolution middle)
    (others : resolver.Discipline middle services resolutions last) :
    resolver.Discipline memory (resolution.service :: services) (resolution :: resolutions)
      last where
  inOrder := congrArg _ others.inOrder
  answered := search.answered.append others.answered
  searches := List.forall_mem_cons.mpr ⟨⟨memory, middle, search⟩, others.searches⟩
  orderly := List.forall_mem_cons.mpr ⟨search.isOrderly, others.orderly⟩
  questions := by
    have here := search.goes.countP_questions
    have behind := others.questions
    rw [List.flatMap_cons, List.countP_append, List.countP_append, List.countP_cons, here, behind]
    cases isUniqueName resolution.service <;> simp <;> omega

/-- The discipline of activation, for every resolver and all services in a row. A resolution asks
about its own service only; it starts the service at most once, right after nobody was found to own
it, and asks once more just if that succeeds. It finds the owner answered last, hands on an error of
the resolver at once, and fails by itself only where a start was in vain. -/
theorem Resolver.resolveAll_discipline (resolver : Resolver σ) (memory : σ)
    (services : List String) :
    resolver.Discipline memory services (resolver.resolveAll memory services).1
      (resolver.resolveAll memory services).2 := by
  -- Each resolution starts from what the ones before left the resolver with.
  induction services generalizing memory with
  | nil =>
      exact ⟨rfl, .nil memory, List.forall_mem_nil _, List.forall_mem_nil _, rfl⟩
  | cons service rest ih =>
      obtain ⟨resolution, middle, first, rfl, search⟩ := resolver.resolve_searches memory service
      have whole : resolver.resolveAll memory (resolution.service :: rest) =
          (resolution :: (resolver.resolveAll middle rest).1,
            (resolver.resolveAll middle rest).2) := by
        rw [Resolver.resolveAll, first]
      rw [whole]
      exact .cons search (ih middle)

end SessionProbe.Bus
