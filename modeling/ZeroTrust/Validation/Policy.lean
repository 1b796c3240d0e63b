/-
  `Validation.Policy` — what is wrong with policies and applications.

  Nothing stops at the first failure. A policy needs a name that is not blank and
  a sound tree. An access policy also needs a destination where one is called for,
  written as its kind asks, and names of gateways that are not blank. Destination
  fields that are not in use are not looked at.
-/
import ZeroTrust.Policy.Bundle
import ZeroTrust.Validation.Tree

namespace ZeroTrust

/-! ### Server names -/

/-- A label of a server name: letters, digits and hyphens, with no hyphen at either end. -/
def isServerLabel (label : List Char) : Bool :=
  !label.isEmpty && label.head? != some '-' && label.getLast? != some '-' &&
    label.all fun c => c.isAlphanum || c == '-'

/-- The characters after a wildcard label at the front, if there is one. -/
def afterWildcard? : List Char → Option (List Char)
  | '*' :: '.' :: rest => some rest
  | _ => none

/-- A server name, or one with a wildcard for its first label. -/
def isServerName (sni : String) : Bool :=
  let host := (afterWildcard? sni.toList).getD sni.toList
  (host.splitOn '.').all isServerLabel

/-! ### Policies -/

/-- What is wrong with the name of a policy. -/
def nameFailures (name : String) : List Failure :=
  if Text.isBlankText name then [⟨.structural, "name", "policy name must not be empty"⟩] else []

/-- What is wrong with the literal of a network found at a path. -/
def cidrFailures (path literal : String) : List Failure :=
  if (Net.Cidr.parse? literal).isSome then []
  else [⟨.valueGrammar, path, Net.Cidr.complaint literal⟩]

/-- What is wrong with a destination. -/
def Destination.failures : Destination → List Failure
  | .any | .app _ => []
  | .cidr literal => cidrFailures "destination_cidr" literal
  | .sni pattern =>
    if isServerName pattern then []
    else [⟨.valueGrammar, "destination_sni", s!"'{pattern}' is not a valid server name"⟩]
  | .missing kind =>
    [⟨.targeting, kind.fieldName,
      s!"destination_type '{kind}' requires '{kind.fieldName}' to be set"⟩]

/-- What is wrong with the gateways of a policy. -/
def gatewayFailures (gateways : NameSet) : List Failure :=
  if gateways.toList.any Text.isBlankText then
    [⟨.structural, "node_ids", "gateway ids must not be empty"⟩]
  else []

/-- Checks an access policy. -/
def AccessPolicy.validate (p : AccessPolicy) : Report :=
  ⟨nameFailures p.name ++ p.destination.failures ++ gatewayFailures p.gateways ++
    p.root.failures none "root_node"⟩

/-- Checks a sign-in policy. -/
def SignInPolicy.validate (p : SignInPolicy) : Report :=
  ⟨nameFailures p.name ++ p.root.failures (some p.stage) "root_node"⟩

/-! ### Applications -/

/-- What is wrong with the networks of an application from an index on. -/
def cidrsFailuresFrom (index : Nat) : List String → List Failure
  | [] => []
  | cidr :: cidrs => cidrFailures s!"cidrs[{index}]" cidr ++ cidrsFailuresFrom (index + 1) cidrs

/-- Checks an application. -/
def Application.validate (a : Application) : Report :=
  ⟨(if Text.isBlankText a.id then
      [⟨.structural, "id", "application id must not be empty"⟩] else []) ++
    (if Text.isBlankText a.name then
      [⟨.structural, "name", "application name must not be empty"⟩] else []) ++
    cidrsFailuresFrom 0 a.cidrs⟩

end ZeroTrust
