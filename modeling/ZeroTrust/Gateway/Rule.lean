/-
  `Gateway.Rule` — flat rules for gateways.

  A rule allows or denies connections to one destination from the sources that
  carry all of its tags; a rule without tags takes every source. The destination
  is a list of networks between commas or a pattern of server names.
-/
import ZeroTrust.Policy.Access

namespace ZeroTrust.Gateway

/-- What a tag says of a source. -/
inductive TagKind where
  /-- Membership in a group; the value is the name after `group:`. -/
  | identity
  /-- A mail address in small letters. -/
  | user
  /-- A mail domain in small letters. -/
  | emailSuffix
  | sourceCidr
  | country
  | privateSource
  | deviceOs
  | deviceManaged
  deriving DecidableEq, Repr

namespace TagKind

/-- Every kind of tag. -/
def all : List TagKind :=
  [identity, user, emailSuffix, sourceCidr, country, privateSource, deviceOs, deviceManaged]

/-- The word for a kind of tag. -/
def name : TagKind → String
  | identity => "Identity"
  | user => "User"
  | emailSuffix => "EmailSuffix"
  | sourceCidr => "SourceCIDR"
  | country => "Country"
  | privateSource => "PrivateSource"
  | deviceOs => "DeviceOS"
  | deviceManaged => "DeviceManaged"

end TagKind

/-- Something that holds of a source. -/
structure Tag where
  kind : TagKind
  value : String
  deriving DecidableEq, Repr

instance : ToString Tag where
  toString t := s!"{t.kind.name}={t.value}"

/-- How the destination of a rule is given. -/
inductive DestinationTag where
  /-- Networks, between commas. -/
  | cidr
  /-- A pattern of server names. -/
  | sni
  deriving DecidableEq, Repr

namespace DestinationTag

/-- Both ways. -/
def all : List DestinationTag := [cidr, sni]

/-- The word for a way. -/
def name : DestinationTag → String
  | cidr => "CIDR"
  | sni => "SNI"

end DestinationTag

/-- The word for an effect in rules. -/
def actionName : Effect → String
  | .allow => "ALLOW"
  | .deny => "DENY"

/-- One rule. -/
structure Rule where
  policyId : String
  name : String
  action : Effect
  priority : Int32
  /-- What a source has to be, all of it. -/
  sources : List Tag
  destinationTag : DestinationTag
  destination : String
  deriving DecidableEq, Repr

/-- The rules for one gateway and what identifies them. -/
structure Config where
  rules : List Rule
  fingerprint : String
  deriving DecidableEq, Repr

/-! ### Documents -/

/-- The document of a tag. -/
def Tag.toJson (t : Tag) : Json :=
  .object [("tag_type", .text t.kind.name), ("value", .text t.value)]

/-- Reads a tag. -/
def Tag.reader : Json.Reader Tag := fun room v => do
  let (room, fields) ← Json.Reader.fields ["tag_type", "value"] room v
  return {
    kind := ← fields.required "tag_type" (.word TagKind.all TagKind.name) room
    value := ← fields.required "value" .text room }

/-- The document of a rule. -/
def Rule.toJson (r : Rule) : Json :=
  .object [
    ("policy_id", .text r.policyId),
    ("name", .text r.name),
    ("action", .text (actionName r.action)),
    ("priority", .int r.priority.toInt),
    ("sources", .ofList Tag.toJson r.sources),
    ("destination_tag_type", .text r.destinationTag.name),
    ("destination_value", .text r.destination)]

/-- Reads a rule. -/
def Rule.reader : Json.Reader Rule := fun room v => do
  let (room, fields) ← Json.Reader.fields
    ["policy_id", "name", "action", "priority", "sources", "destination_tag_type",
      "destination_value"] room v
  return {
    policyId := ← fields.required "policy_id" .text room
    name := ← fields.required "name" .text room
    action := ← fields.required "action" (.word Effect.all actionName) room
    priority := ← fields.required "priority" priorityReader room
    sources := ← fields.required "sources" (.list Tag.reader) room
    destinationTag := ← fields.required "destination_tag_type"
      (.word DestinationTag.all DestinationTag.name) room
    destination := ← fields.required "destination_value" .text room }

/-- The document of a list of rules. -/
def rulesToJson (rules : List Rule) : Json :=
  .ofList Rule.toJson rules

/-- The document of a configuration. -/
def Config.toJson (c : Config) : Json :=
  .object [("rules", rulesToJson c.rules), ("config_hash", .text c.fingerprint)]

/-- Reads a configuration. -/
def Config.reader : Json.Reader Config := fun room v => do
  let (room, fields) ← Json.Reader.fields ["rules", "config_hash"] room v
  return {
    rules := ← fields.required "rules" (.list Rule.reader) room
    fingerprint := ← fields.required "config_hash" .text room }

end ZeroTrust.Gateway
