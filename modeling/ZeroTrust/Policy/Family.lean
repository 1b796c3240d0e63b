/-
  `Policy.Family` — what policies of both families have in common.

  Stores, snapshots and evaluators work on either family through this view: an id
  and a name, a place in the order, a switch, a count of saves, a tree, and a
  check of the whole.
-/
import ZeroTrust.Validation.Policy

namespace ZeroTrust

/-- A family of policies. -/
class Policy (P : Type) where
  /-- The word for the family in messages. -/
  family : String
  id : P → String
  withId : P → String → P
  name : P → String
  priority : P → Int32
  enabled : P → Bool
  withEnabled : P → Bool → P
  version : P → Nat
  /-- The policy as saved with a version at a moment. -/
  stamped : P → Nat → Timestamp → P
  updatedAt : P → Option Timestamp
  root : P → Tree
  validate : P → Report

instance : Policy AccessPolicy where
  family := "access"
  id := AccessPolicy.id
  withId p id := { p with id := id }
  name := AccessPolicy.name
  priority := AccessPolicy.priority
  enabled := AccessPolicy.enabled
  withEnabled p enabled := { p with enabled := enabled }
  version := AccessPolicy.version
  stamped p version moment := { p with version := version, updatedAt := some moment }
  updatedAt := AccessPolicy.updatedAt
  root := AccessPolicy.root
  validate := AccessPolicy.validate

instance : Policy SignInPolicy where
  family := "sign-in"
  id := SignInPolicy.id
  withId p id := { p with id := id }
  name := SignInPolicy.name
  priority := SignInPolicy.priority
  enabled := SignInPolicy.enabled
  withEnabled p enabled := { p with enabled := enabled }
  version := SignInPolicy.version
  stamped p version moment := { p with version := version, updatedAt := some moment }
  updatedAt := SignInPolicy.updatedAt
  root := SignInPolicy.root
  validate := SignInPolicy.validate

/-- Policies in the order in which they are consulted: by priority, and by id where priorities are
equal. -/
def Policy.precedes [Policy P] (p q : P) : Bool :=
  Policy.priority p < Policy.priority q ||
    (Policy.priority p == Policy.priority q && Policy.id p ≤ Policy.id q)

end ZeroTrust
