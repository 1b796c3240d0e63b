/-
  `Store.Snapshot` — the policies that are in force.

  A snapshot holds the enabled policies of both families in the order in which
  they are consulted. It never changes; a refresh puts a new one in its place.
-/
import ZeroTrust.Policy.Bundle
import ZeroTrust.Store.Basic

namespace ZeroTrust

/-- The enabled policies among some, in the order in which they are consulted. -/
def inForce [Policy P] (policies : List P) : List P :=
  (policies.filter Policy.enabled).mergeSort Policy.precedes

/-- The policies that are in force. -/
structure Snapshot where
  access : List AccessPolicy
  signIn : List SignInPolicy
  deriving DecidableEq, Repr

namespace Snapshot

/-- The snapshot of some policies. -/
def ofPolicies (access : List AccessPolicy) (signIn : List SignInPolicy) : Snapshot :=
  ⟨inForce access, inForce signIn⟩

/-- The snapshot without policies. -/
def empty : Snapshot :=
  ofPolicies [] []

/-- The snapshot of a bundle. -/
def ofBundle (b : Bundle) : Snapshot :=
  ofPolicies b.access b.signIn

/-- The snapshot of two stores. -/
def ofStores (access : Store AccessPolicy) (signIn : Store SignInPolicy) : Snapshot :=
  ofPolicies access.list signIn.list

/-- What putting the snapshot in force reports. -/
def replacedEvents (s : Snapshot) : List Event :=
  [⟨.info, .snapshot, "policy snapshot replaced",
    [("access", .int s.access.length), ("sign_in", .int s.signIn.length)]⟩]

end Snapshot

end ZeroTrust
