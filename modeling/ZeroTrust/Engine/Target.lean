/-
  `Engine.Target` — whether a policy aims at the destination of a request.

  A destination that names every place aims at each request. One that cannot be
  resolved (a network that is no literal, an application that is not there, a field
  left blank) leaves the question open. An application aims at the addresses of
  its networks; one network that cannot be read leaves the question open only where
  no other network answers it.
-/
import ZeroTrust.Evaluation.Domain
import ZeroTrust.Net.Cidr
import ZeroTrust.Policy.Bundle
import ZeroTrust.Request

namespace ZeroTrust

/-- Why a destination cannot be resolved. -/
inductive TargetFault where
  | notCidr (literal : String)
  | applicationNotFound (id : String)
  | missing (kind : DestinationKind)
  deriving DecidableEq, Repr

/-- The words for why a destination cannot be resolved. -/
def TargetFault.message : TargetFault → String
  | notCidr literal => Net.Cidr.complaint literal
  | applicationNotFound id => s!"application '{id}' not found"
  | missing kind => s!"destination_type '{kind}' has no destination value"

/-- Whether a policy aims at the destination of a request. -/
inductive Aim where
  | yes
  | no
  | unknown (fault : TargetFault)
  deriving DecidableEq, Repr

namespace Aim

/-- The answer to a question that is settled. -/
def ofBool (b : Bool) : Aim :=
  if b then yes else no

theorem ofBool_ne_unknown (b : Bool) (fault : TargetFault) : ofBool b ≠ unknown fault := by
  cases b <;> simp [ofBool]

/-- Whether some networks hold an address. -/
def ofNetworks (a : Net.Ipv4) : List String → Aim
  | [] => no
  | cidr :: cidrs =>
    match Net.Cidr.parse? (Text.trim cidr) with
    | some net => if net.contains a then yes else ofNetworks a cidrs
    | none =>
      match ofNetworks a cidrs with
      | yes => yes
      | _ => unknown (.notCidr (Text.trim cidr))

/-- Whether the networks of an application hold an address. Without an address they do not. -/
def ofApplication (app : Application) (a : Option Net.Ipv4) : Aim :=
  match a with
  | some a => ofNetworks a app.cidrs
  | none => no

end Aim

/-- Whether a destination aims at a request; applications are looked up by `resolve`. -/
def Destination.aim (resolve : String → Option Application) (r : Request) : Destination → Aim
  | .any => .yes
  | .cidr literal =>
    (Net.Cidr.parse? literal).elim (.unknown (.notCidr literal)) fun net =>
      .ofBool (r.destinationIpv4.any net.contains)
  | .sni pattern => .ofBool (r.destinationSni.any (Domain.matchesServer pattern))
  | .app id =>
    (resolve id).elim (.unknown (.applicationNotFound id)) fun app =>
      .ofApplication app r.destinationIpv4
  | .missing kind => .unknown (.missing kind)

end ZeroTrust
