import SessionProbe.Bus.Resolver

set_option autoImplicit false

/-!
Resolving services one after the other with one resolver, and what each resolution asked of it.
-/

namespace SessionProbe.Bus

/-- Something asked of a resolver, with the answer. -/
inductive Inquiry
  | nameOwner (service : String) (answer : Except BusError (Option String))
  | startService (service : String) (answer : Except BusError Unit)
deriving Repr

def Inquiry.service : Inquiry → String
  | .nameOwner service _ => service
  | .startService service _ => service

/-- What a resolver remembers, and what was asked of it. -/
structure Inquired (σ : Type) where
  memory : σ
  inquiries : List Inquiry := []

variable {σ : Type}

/-- Let a resolver answer, and keep what was asked with the answer. -/
def Inquired.keep {α : Type} (inquiry : Except BusError α → Inquiry) (task : Task σ α) :
    Task (Inquired σ) α := fun logged =>
  let after (answer : Except BusError α) (inner : Logged σ) : Logged (Inquired σ) :=
    { state :=
        { memory := inner.state, inquiries := logged.state.inquiries ++ [inquiry answer] }
      journal := inner.journal }
  match task { state := logged.state.memory, journal := logged.journal } with
  | .ok value inner => .ok value (after (.ok value) inner)
  | .error error inner => .error error (after (.error error) inner)

/-- The resolver that answers like another and keeps what was asked. -/
def Resolver.inquired (resolver : Resolver σ) : Resolver (Inquired σ) where
  nameOwner service := Inquired.keep (.nameOwner service) (resolver.nameOwner service)
  startService service := Inquired.keep (.startService service) (resolver.startService service)

structure Resolution where
  service : String
  owner : Except BusError String
  inquiries : List Inquiry
  journal : List Journal.Entry

/-- Resolve a service; the resolver goes on from what it remembers. -/
def Resolver.resolve (resolver : Resolver σ) (memory : σ) (service : String) : Resolution × σ :=
  let report (owner : Except BusError String) (logged : Logged (Inquired σ)) : Resolution × σ :=
    ({ service, owner, inquiries := logged.state.inquiries, journal := logged.journal },
      logged.state.memory)
  match resolver.inquired.owner service { state := { memory } } with
  | .ok owner logged => report (.ok owner) logged
  | .error error logged => report (.error error) logged

def Resolver.resolveAll (resolver : Resolver σ) : (memory : σ) → List String → List Resolution × σ
  | memory, [] => ([], memory)
  | memory, service :: rest =>
    let (resolution, next) := resolver.resolve memory service
    let (resolutions, last) := resolver.resolveAll next rest
    (resolution :: resolutions, last)

/-- Prepared answers to questions about names, each list for one kind of question. -/
structure PreparedNames where
  owners : List (Except BusError (Option String))
  starts : List (Except BusError Unit)

/-- A resolver with prepared answers. Once they are used up nobody owns anything and every start
succeeds. -/
def Resolver.prepared : Resolver PreparedNames where
  nameOwner _ := do
    let logged ← get
    set { logged with state := { logged.state with owners := logged.state.owners.drop 1 } }
    MonadExcept.ofExcept (logged.state.owners.headD (.ok none))
  startService _ := do
    let logged ← get
    set { logged with state := { logged.state with starts := logged.state.starts.drop 1 } }
    MonadExcept.ofExcept (logged.state.starts.headD (.ok ()))

end SessionProbe.Bus
