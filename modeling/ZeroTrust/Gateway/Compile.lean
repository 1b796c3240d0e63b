/-
  `Gateway.Compile` — from access policies to rules.

  Each enabled policy that is deployed to the gateway becomes one rule for each
  term of its tree, in the order in which policies are consulted. Conditions that
  no tag expresses count as true where the policy denies and as false where it
  allows. An application without networks makes no rule. A destination that cannot
  be resolved makes no rule either where the policy allows, and where it denies it
  makes a rule for every source and every address.
-/
import ZeroTrust.Engine.Target
import ZeroTrust.Error
import ZeroTrust.Gateway.Expansion
import ZeroTrust.Gateway.Fingerprint
import ZeroTrust.Log.Event
import ZeroTrust.Policy.Family

namespace ZeroTrust.Gateway

/-- What compiling depends on beside the policies. -/
structure Options where
  /-- The gateway that the rules are for. -/
  gateway : Option String
  /-- Whether a disjunction without members matches. -/
  vacuousOr : Bool
  /-- How many rules a policy may make. -/
  maxTerms : Nat
  deriving DecidableEq, Repr

/-- The options where none are given. -/
def Options.default : Options := ⟨none, true, 64⟩

/-! ### Destinations -/

/-- The network of all addresses. -/
def anyDestination : String := "0.0.0.0/0"

/-- Why a gateway cannot tell a destination. -/
inductive PlaceFault where
  | target (fault : TargetFault)
  /-- A network of an application is no literal. -/
  | notCidr (application literal : String)
  deriving DecidableEq, Repr

/-- The words for why a gateway cannot tell a destination. -/
def PlaceFault.message : PlaceFault → String
  | target fault => fault.message
  | notCidr application literal =>
    s!"application '{application}': {Net.Cidr.complaint literal}"

/-- Where a policy sends traffic, as far as a gateway can tell. -/
inductive Place where
  | known (tag : DestinationTag) (value : String)
  /-- An application without networks. -/
  | nowhere
  | unknown (fault : PlaceFault)
  deriving DecidableEq, Repr

/-- The place of an application. -/
def placeOfApplication (app : Application) (id : String) : Place :=
  let cidrs := app.cidrs.map Text.trim
  if cidrs.isEmpty then .nowhere
  else
    match cidrs.find? fun cidr => (Net.Cidr.parse? cidr).isNone with
    | some cidr => .unknown (.notCidr id cidr)
    | none => .known .cidr (",".intercalate cidrs)

/-- The place of a destination; applications are looked up by `resolve`. -/
def place (resolve : String → Option Application) : Destination → Place
  | .any => .known .cidr anyDestination
  | .cidr literal =>
    if (Net.Cidr.parse? literal).isSome then .known .cidr literal
    else .unknown (.target (.notCidr literal))
  | .sni pattern => .known .sni (Text.lower (Text.trim pattern))
  | .app id =>
    (resolve id).elim (.unknown (.target (.applicationNotFound id))) fun app =>
      placeOfApplication app id
  | .missing kind => .unknown (.target (.missing kind))

/-! ### Rules -/

/-- The rule of a policy for some sources and a destination. -/
def rule (p : AccessPolicy) (sources : Term) (tag : DestinationTag) (value : String) : Rule :=
  ⟨p.id, p.name, p.effect, p.priority, sources, tag, value⟩

/-- The options for expanding the tree of a policy. -/
def expandOptions (o : Options) (p : AccessPolicy) : ExpandOptions :=
  ⟨p.effect == .deny, o.vacuousOr, o.maxTerms⟩

/-- The rules of a policy. -/
def compilePolicy (resolve : String → Option Application) (o : Options) (p : AccessPolicy) :
    Except Error (List Rule) :=
  match place resolve p.destination, p.effect with
  | .known tag value, _ =>
    match expand (expandOptions o p) p.root with
    | some terms => .ok (terms.map fun sources => rule p sources tag value)
    | none => .error (.tooManyRules p.name o.maxTerms)
  | .nowhere, _ => .ok []
  | .unknown _, .allow => .ok []
  | .unknown _, .deny => .ok [rule p [] .cidr anyDestination]

/-- The policies that make the rules of a gateway, in order. -/
def deployed (o : Options) (policies : List AccessPolicy) : List AccessPolicy :=
  (policies.filter fun p => p.enabled && p.deployedTo o.gateway).mergeSort Policy.precedes

/-- The rules of some policies, in order, up to the first that makes too many. -/
def compileAll (resolve : String → Option Application) (o : Options) :
    List AccessPolicy → Except Error (List Rule)
  | [] => .ok []
  | p :: ps => do
    let rules ← compilePolicy resolve o p
    return rules ++ (← compileAll resolve o ps)

/-- The rules for a gateway, with their fingerprint. -/
def compile (resolve : String → Option Application) (o : Options) (policies : List AccessPolicy) :
    Except Error Config := do
  let rules ← compileAll resolve o (deployed o policies)
  return ⟨rules, fingerprint rules⟩

end ZeroTrust.Gateway
