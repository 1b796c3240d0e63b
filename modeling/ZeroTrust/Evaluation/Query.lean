/-
  `Evaluation.Query` — what a condition asks, once its value has been understood.

  The value of a condition is text. A query is the same question with the value
  read: a network, a country code, an operating system, a domain in small letters.
  A condition whose value cannot be read, or whose operator does not belong to its
  kind, has a fault in place of a query; that never depends on a request. A query
  holds of some facts or does not, and of a missing fact it does not hold.
-/
import ZeroTrust.Condition.Country
import ZeroTrust.Evaluation.Domain
import ZeroTrust.Net.Cidr
import ZeroTrust.Request

namespace ZeroTrust

/-! ### Facts -/

/-- What a tree is evaluated against. -/
structure Facts where
  request : Request
  /-- The country, told by the request or by its source address. -/
  country : Option String
  /-- Whether a disjunction without members matches. -/
  vacuousOr : Bool
  deriving DecidableEq, Repr

/-! ### Faults -/

/-- Why a condition cannot be evaluated. -/
inductive Fault where
  /-- The operator does not belong to the kind of the condition. -/
  | foreignOp (op : Op) (kind : Kind)
  | emptyGroup
  | emptyEmail
  | emptyDomain
  | notCidr (value : String)
  | unknownCountry (value : String)
  | unknownSystem (value : String)
  deriving DecidableEq, Repr

namespace Fault

/-- The words for a fault. -/
def message : Fault → String
  | foreignOp op kind => s!"operator '{op}' is not valid for condition type '{kind}'"
  | emptyGroup => "in_group condition has an empty group"
  | emptyEmail => "is condition has an empty email"
  | emptyDomain => "email_suffix condition has an empty domain"
  | notCidr value => Net.Cidr.complaint value
  | unknownCountry value => s!"'{value}' is not a known country code"
  | unknownSystem value => OperatingSystem.complaint value

end Fault

/-! ### Queries -/

/-- A question about a request. -/
inductive Query where
  | inGroup (group : String)
  /-- The user has this mail address, up to ASCII case. -/
  | hasEmail (email : String)
  /-- The user's mail address lies in this domain, given in small letters. -/
  | inDomain (domain : String)
  | fromNetwork (net : Net.Cidr)
  | fromCountry (code : String)
  | fromPrivateNetwork
  | runs (os : OperatingSystem)
  | isManaged
  deriving DecidableEq, Repr

/-- What a condition asks, or why it cannot be evaluated. Blanks around its value do not count. -/
def Condition.query (c : Condition) : Except Fault Query :=
  if !c.kind.allows c.op then .error (.foreignOp c.op c.kind)
  else
    let value := Text.trim c.value
    match c.op with
    | .inGroup => if value = "" then .error .emptyGroup else .ok (.inGroup value)
    | .is => if value = "" then .error .emptyEmail else .ok (.hasEmail value)
    | .emailSuffix =>
      let domain := Text.lower (String.ofList (value.toList.dropWhile (· == '@')))
      if domain = "" then .error .emptyDomain else .ok (.inDomain domain)
    | .cidr =>
      match Net.Cidr.parse? value with
      | some net => .ok (.fromNetwork net)
      | none => .error (.notCidr value)
    | .country =>
      if Country.isKnown value then .ok (.fromCountry value) else .error (.unknownCountry value)
    | .isPrivate => .ok .fromPrivateNetwork
    | .os =>
      match OperatingSystem.named? value with
      | some os => .ok (.runs os)
      | none => .error (.unknownSystem value)
    | .managed => .ok .isManaged

/-- Whether a query holds of some facts. -/
def Query.holds (facts : Facts) : Query → Bool
  | inGroup group => facts.request.user.any fun u => u.groups.contains group
  | hasEmail email =>
    facts.request.user.any fun u => Text.sameIgnoringCase (Text.trim u.email) email
  | inDomain domain => facts.request.user.any fun u => Domain.holdsEmail domain u.email
  | fromNetwork net => facts.request.sourceIpv4.any net.contains
  | fromCountry code =>
    facts.country.any fun country => Text.sameIgnoringCase (Text.trim country) code
  | fromPrivateNetwork => facts.request.sourceIpv4.any Net.Ipv4.isPrivate
  | runs os => facts.request.device.any fun d => d.os == some os
  | isManaged => facts.request.device.any Device.managed

end ZeroTrust
