/-
  `Store.Basic` — a store of policies of one family.

  A store files policies under their ids. A step either fails and leaves the store
  as it was, or gives a new store and an answer. A policy is checked before it is
  saved. A save counts up the version and notes the moment; one that was made on
  top of another version than the stored one is refused.

  Ids for new policies and the moments of saves come from outside, so that a step
  depends on nothing but what it is given.
-/
import ZeroTrust.Error
import ZeroTrust.Log.Event
import ZeroTrust.Ordered.Registry
import ZeroTrust.Policy.Family

namespace ZeroTrust

/-- A store of policies. -/
structure Store (P : Type) where
  policies : Registry P

namespace Store

variable {P : Type} [Policy P]

/-- The store without policies. -/
def empty : Store P := ⟨.empty⟩

/-- The number of policies, enabled or not. -/
def size (s : Store P) : Nat :=
  s.policies.size

/-- The policy under an id. -/
def get (s : Store P) (id : String) : Except Error P :=
  match s.policies.find? id with
  | some p => .ok p
  | none => .error (.policyNotFound id)

/-- Every policy, by priority, and by id where priorities are equal. -/
def list (s : Store P) : List P :=
  s.policies.values.mergeSort fun p q => Policy.priority p ≤ Policy.priority q

/-- The id that a new policy is to have: its own, or a fresh one where it has none. -/
def idFor (fresh : String) (p : P) : String :=
  if Policy.id p = "" then fresh else Policy.id p

/-- Saves a policy under its id. -/
def save (s : Store P) (p : P) : Store P :=
  ⟨s.policies.insert (Policy.id p) p⟩

/-- Saves a new policy, whose version becomes one. -/
def create (s : Store P) (fresh : String) (now : Timestamp) (p : P) :
    Except Error (P × Store P) := do
  -- An invalid policy is refused as such, even where its id is taken.
  (Policy.validate p).orInvalid (Policy.name p)
  if Policy.id p ≠ "" ∧ s.policies.contains (Policy.id p) then
    throw (.alreadyExists (Policy.family P) (Policy.id p))
  let saved := Policy.stamped (Policy.withId p (idFor fresh p)) 1 now
  return (saved, s.save saved)

/-- Replaces a stored policy by one with the same id and version. -/
def update (s : Store P) (now : Timestamp) (p : P) : Except Error (P × Store P) := do
  let stored ← s.get (Policy.id p)
  -- A stale policy is refused as such, even where it is invalid.
  if Policy.version stored ≠ Policy.version p then
    throw (.versionConflict (Policy.id p) (Policy.version p) (Policy.version stored))
  (Policy.validate p).orInvalid (Policy.name p)
  let saved := Policy.stamped p (Policy.version stored + 1) now
  return (saved, s.save saved)

/-- Enables or disables a stored policy. It is not saved when it is that way already. -/
def setEnabled (s : Store P) (now : Timestamp) (id : String) (enabled : Bool) :
    Except Error (P × Store P) := do
  let stored ← s.get id
  if Policy.enabled stored = enabled then return (stored, s)
  let saved :=
    Policy.stamped (Policy.withEnabled stored enabled) (Policy.version stored + 1) now
  return (saved, ⟨s.policies.insert id saved⟩)

/-- Removes a stored policy. -/
def delete (s : Store P) (id : String) : Except Error (Store P) := do
  let _ ← s.get id
  return ⟨s.policies.erase id⟩

end Store

end ZeroTrust
