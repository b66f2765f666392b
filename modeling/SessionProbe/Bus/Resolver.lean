import SessionProbe.Bus.Conversation

set_option autoImplicit false

/-!
Finding whom to call. A unique name is its own owner. The owner of any other name is asked for,
and a service without owner is started once and asked for again.
-/

namespace SessionProbe.Bus

/-- Whoever answers questions about names; `σ` is what it remembers. -/
structure Resolver (σ : Type) where
  nameOwner : (service : String) → Task σ (Option String)
  startService : (service : String) → Task σ Unit

def isUniqueName (service : String) : Bool :=
  service.toList.head? == some ':'

/-- The unique name that calls to a service go to. -/
def Resolver.owner {σ : Type} (resolver : Resolver σ) (service : String) : Task σ String := do
  if isUniqueName service then
    return service
  else
    match ← resolver.nameOwner service with
    | some owner => return owner
    | none =>
      note .info .bus s!"{service} has no owner, requesting activation"
      resolver.startService service
      match ← resolver.nameOwner service with
      | some owner => return owner
      | none => throw (.serviceUnknown service)

end SessionProbe.Bus
