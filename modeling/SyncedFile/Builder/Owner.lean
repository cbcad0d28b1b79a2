import SyncedFile.Surroundings
import SyncedFile.Locator.Basic
import SyncedFile.Value.Equality

/-!
# Owners

How an owner shows whether it is authenticated and which identity it has. Every read of an identity
is a call that the surroundings record, so the n-th read of a varying owner is the n-th in the
record.
-/

namespace SyncedFile

namespace Call

def readsVarying (name : Text) : Call → Bool
  | identityRead (.varying other _ _) => other == name
  | _ => false

end Call

def Surroundings.readsOf (s : Surroundings) (name : Text) : Nat :=
  s.calls.countP (Call.readsVarying name)

namespace Owner

def check : Owner → Except Failure Unit
  | fixed _ authenticated | varying _ _ authenticated =>
    if authenticated.isTruthy then .ok () else .error .ownerNotAuthenticated
  | other value => .error (.notAnOwner value.typeName)

/-- The identity that an owner shows after so many reads; the last one stays. -/
def identityAfter (reads : Nat) : Owner → Value
  | fixed identity _ => identity
  | varying _ identities _ => (identities[reads]?.or identities.getLast?).getD .null
  | other _ => .null

def readIdentity (owner : Owner) : Run Value := do
  let s ← get
  let reads :=
    match owner with
    | varying name _ _ => s.readsOf name
    | _ => 0
  Run.record (.identityRead owner)
  return owner.identityAfter reads

def literal : Owner → Text
  | fixed identity authenticated =>
    Locator.recordLiteral "StaticIdentityOwner"
      [("identity", identity.literal), ("is_authenticated", authenticated.literal)]
  | varying _ _ _ => "<lazy owner>"
  | other value => value.literal

def equals : Owner → Owner → Bool
  | fixed i a, fixed j b => i.equals j && a.equals b
  | varying n _ _, varying m _ _ => n == m
  | other v, other w => v.equals w
  | _, _ => false

def unhashable? : Owner → Option Text
  | fixed identity authenticated => identity.unhashable?.or authenticated.unhashable?
  | varying _ _ _ => none
  | other value => value.unhashable?

end Owner
end SyncedFile
