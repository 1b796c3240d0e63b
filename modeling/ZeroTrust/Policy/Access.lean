/-
  `Policy.Access` — rules for access to networks and applications.

  An access policy allows or denies requests to a destination when its tree
  matches. The destination is a network, an application or a server name, and one
  of the policy's fields says which of the three others is meant; what the others
  hold has no effect. A policy may be confined to some gateways.
-/
import ZeroTrust.Ordered.NameSet
import ZeroTrust.Timestamp.Parser
import ZeroTrust.Tree.Document

namespace ZeroTrust

/-! ### Effect -/

/-- What a policy does when its tree matches. -/
inductive Effect where
  | allow
  | deny
  deriving DecidableEq, Repr

namespace Effect

/-- Both effects. -/
def all : List Effect := [allow, deny]

/-- The word for an effect. -/
def name : Effect → String
  | allow => "allow"
  | deny => "deny"

end Effect

/-! ### Destination -/

/-- Which field of a policy holds its destination. -/
inductive DestinationKind where
  | cidr
  | app
  | sni
  /-- No field: the policy applies to every destination. -/
  | none
  deriving DecidableEq, Repr

namespace DestinationKind

/-- Every kind of destination. -/
def all : List DestinationKind := [cidr, app, sni, none]

/-- The word for a kind of destination. -/
def name : DestinationKind → String
  | cidr => "cidr"
  | app => "app"
  | sni => "sni"
  | none => "none"

instance : ToString DestinationKind := ⟨name⟩

/-- The field that holds a destination of this kind. -/
def fieldName : DestinationKind → String
  | cidr => "destination_cidr"
  | app => "destination_app_id"
  | sni => "destination_sni"
  | none => "destination_type"

end DestinationKind

/-- Where a policy applies. -/
inductive Destination where
  | any
  /-- A network, given by its literal. -/
  | cidr (literal : String)
  /-- An application, given by its id. -/
  | app (id : String)
  /-- The servers that a name or a wildcard covers. -/
  | sni (pattern : String)
  /-- The field that should hold the destination is absent or blank. -/
  | missing (kind : DestinationKind)
  deriving DecidableEq, Repr

/-! ### Policies -/

/-- A rule for access to a destination. -/
structure AccessPolicy where
  /-- The name it is filed under; empty until a store assigns one. -/
  id : String
  name : String
  /-- Policies of lower priority are consulted first. -/
  priority : Int32
  effect : Effect
  destinationKind : DestinationKind
  destinationCidr : Option String
  destinationApp : Option String
  destinationSni : Option String
  root : Tree
  enabled : Bool
  /-- The gateways it is confined to; none means every gateway. -/
  gateways : NameSet
  /-- Counts the saves; zero means never saved. -/
  version : Nat
  updatedAt : Option Timestamp
  deriving DecidableEq, Repr

namespace AccessPolicy

/-- A new policy: enabled, allowing everything everywhere. -/
def new (name : String) (priority : Int32) : AccessPolicy where
  id := ""
  name := name
  priority := priority
  effect := .allow
  destinationKind := .none
  destinationCidr := none
  destinationApp := none
  destinationSni := none
  root := .empty
  enabled := true
  gateways := .empty
  version := 0
  updatedAt := none

/-- What a destination field holds, trimmed, unless it is absent or blank. -/
def present? (field : Option String) : Option String :=
  (field.map Text.trim).filter fun s => s != ""

/-- Where the policy applies. -/
def destination (p : AccessPolicy) : Destination :=
  match p.destinationKind with
  | .none => .any
  | .cidr => (present? p.destinationCidr).elim (.missing .cidr) .cidr
  | .app => (present? p.destinationApp).elim (.missing .app) .app
  | .sni => (present? p.destinationSni).elim (.missing .sni) .sni

/-- Whether the policy applies at a gateway. One confined to some gateways never applies where the
gateway is not known. -/
def deployedTo (p : AccessPolicy) (gateway : Option String) : Bool :=
  p.gateways.isEmpty || gateway.any p.gateways.contains

end AccessPolicy

/-! ### Priorities -/

/-- The distance between the priorities of policies made one after another. -/
def priorityStep : Nat := 100

/-- The priority of a new policy beside a number of others. -/
def priorityAfter (existing : Nat) : Int32 :=
  Int32.ofNat (min ((existing + 1) * priorityStep) Int32.maxValue.toNatClampNeg)

/-! ### Documents -/

/-- Reads a priority. -/
def priorityReader : Json.Reader Int32 := fun room v =>
  Int32.ofInt <$> Json.Reader.int Int32.minValue.toInt Int32.maxValue.toInt room v

/-- Reads a set of names from an array, in which they may stand in any order and repeatedly. -/
def NameSet.reader : Json.Reader NameSet := fun room v =>
  NameSet.ofList <$> Json.Reader.list .text room v

/-- The document of a set of names. -/
def NameSet.toJson (s : NameSet) : Json :=
  .ofList .text s.toList

/-- A member that is left out where there is no value. -/
def memberOfOption (name : String) (value : Option Json) : List (String × Json) :=
  value.toList.map fun v => (name, v)

namespace AccessPolicy

/-- The document of a policy. Absent destinations, an empty set of gateways and an absent moment are
left out. -/
def toJson (p : AccessPolicy) : Json :=
  .object (
    [("id", .text p.id),
      ("name", .text p.name),
      ("priority", .int p.priority.toInt),
      ("effect", .text p.effect.name),
      ("destination_type", .text p.destinationKind.name)] ++
    memberOfOption "destination_cidr" (p.destinationCidr.map .text) ++
    memberOfOption "destination_app_id" (p.destinationApp.map .text) ++
    memberOfOption "destination_sni" (p.destinationSni.map .text) ++
    [("root_node", p.root.toJson),
      ("enabled", .bool p.enabled)] ++
    (if p.gateways.isEmpty then [] else [("node_ids", p.gateways.toJson)]) ++
    [("version", .int p.version)] ++
    memberOfOption "updated_at" (p.updatedAt.map fun t => .text (toString t)))

/-- The names of the fields of a policy's document, in order. -/
def fieldNames : List String :=
  ["id", "name", "priority", "effect", "destination_type", "destination_cidr",
    "destination_app_id", "destination_sni", "root_node", "enabled", "node_ids", "version",
    "updated_at"]

/-- Reads a policy. Only name, priority and effect have to be given. -/
def reader : Json.Reader AccessPolicy := fun room v => do
  let (room, fields) ← Json.Reader.fields fieldNames room v
  return {
    id := ← fields.withDefault "id" "" .text room
    name := ← fields.required "name" .text room
    priority := ← fields.required "priority" priorityReader room
    effect := ← fields.required "effect" (.word Effect.all Effect.name) room
    destinationKind := ← fields.withDefault "destination_type" .none
      (.word DestinationKind.all DestinationKind.name) room
    destinationCidr := ← fields.optional "destination_cidr" .text room
    destinationApp := ← fields.optional "destination_app_id" .text room
    destinationSni := ← fields.optional "destination_sni" .text room
    root := ← fields.withDefault "root_node" .empty Tree.reader room
    enabled := ← fields.withDefault "enabled" true .bool room
    gateways := ← fields.withDefault "node_ids" .empty NameSet.reader room
    version := ← fields.withDefault "version" 0 .nat room
    updatedAt := ← fields.optional "updated_at" (.parsed Timestamp.parse?) room }

end AccessPolicy

end ZeroTrust
