/-
  `Store.Events` — what is reported when a store is written to.

  Steps that succeed report themselves, after the fact. Switching a policy to the
  state it is in is reported as well, at a lower level. Steps that fail report
  nothing.
-/
import ZeroTrust.Store.Basic

namespace ZeroTrust.Store

variable {P : Type} [Policy P]

/-- The field that names the family. -/
def familyField (P : Type) [Policy P] : String × EventValue :=
  ("family", .word (Policy.family P))

/-- The field that names a policy by its id. -/
def idField (id : String) : String × EventValue :=
  ("policy_id", .text id)

/-- What creating reports, given the policy as saved. -/
def createEvents (result : Except Error (P × Store P)) : List Event :=
  match result with
  | .ok (p, _) =>
    [⟨.info, .store, "policy created",
      [familyField P, idField (Policy.id p), ("policy", .text (Policy.name p)),
        ("priority", .int (Policy.priority p).toInt)]⟩]
  | .error _ => []

/-- What updating reports, given the policy as saved. -/
def updateEvents (result : Except Error (P × Store P)) : List Event :=
  match result with
  | .ok (p, _) =>
    [⟨.info, .store, "policy updated",
      [familyField P, idField (Policy.id p), ("version", .int (Policy.version p))]⟩]
  | .error _ => []

/-- What enabling or disabling reports, given the store before. -/
def setEnabledEvents (before : Store P) (id : String) (enabled : Bool) : List Event :=
  match before.policies.find? id with
  | some stored =>
    let fields := [familyField P, idField id, ("enabled", .bool enabled)]
    if Policy.enabled stored = enabled then [⟨.debug, .store, "enabled flag unchanged", fields⟩]
    else [⟨.info, .store, "policy toggled", fields⟩]
  | none => []

/-- What deleting reports, given the store before. -/
def deleteEvents (before : Store P) (id : String) : List Event :=
  if before.policies.contains id then
    [⟨.info, .store, "policy deleted", [familyField P, idField id]⟩]
  else []

end ZeroTrust.Store
