/-
  `Request` — what is known about one request.

  Every fact may be missing: the user, the device, both addresses, the country and
  the server name. A condition that asks about a missing fact does not match.
-/
import ZeroTrust.Net.Address
import ZeroTrust.Policy.Access

namespace ZeroTrust

/-- A user who has been identified. -/
structure Identity where
  email : String
  groups : NameSet
  deriving DecidableEq, Repr

/-- What a device says of itself. -/
structure Device where
  os : Option OperatingSystem
  managed : Bool
  deriving DecidableEq, Repr

/-- What is known about one request. -/
structure Request where
  user : Option Identity
  device : Option Device
  sourceIp : Option Net.Address
  /-- A two-letter code. Where it is missing, the source address may tell it. -/
  country : Option String
  destinationIp : Option Net.Address
  destinationSni : Option String
  deriving DecidableEq, Repr

namespace Identity

/-- The document of an identity. -/
def toJson (u : Identity) : Json :=
  .object [("email", .text u.email), ("groups", u.groups.toJson)]

/-- Reads an identity. -/
def reader : Json.Reader Identity := fun room v => do
  let (room, fields) ← Json.Reader.fields ["email", "groups"] room v
  return {
    email := ← fields.required "email" .text room
    groups := ← fields.withDefault "groups" .empty NameSet.reader room }

end Identity

namespace Device

/-- The document of a device. -/
def toJson (d : Device) : Json :=
  .object [("os", .ofOption (fun os => .text os.name) d.os), ("managed", .bool d.managed)]

/-- Reads a device. -/
def reader : Json.Reader Device := fun room v => do
  let (room, fields) ← Json.Reader.fields ["os", "managed"] room v
  return {
    os := ← fields.optional "os" (.word OperatingSystem.all OperatingSystem.name) room
    managed := ← fields.withDefault "managed" false .bool room }

end Device

namespace Request

/-- The request about which nothing is known. -/
def empty : Request := ⟨none, none, none, none, none, none⟩

/-- The source address, if it is or maps one of four octets. -/
def sourceIpv4 (r : Request) : Option Net.Ipv4 :=
  r.sourceIp.bind Net.Address.ipv4?

/-- The destination address, if it is or maps one of four octets. -/
def destinationIpv4 (r : Request) : Option Net.Ipv4 :=
  r.destinationIp.bind Net.Address.ipv4?

/-- The document of a request; missing facts are `null`. -/
def toJson (r : Request) : Json :=
  let address (ip : Option Net.Address) : Json := .ofOption (fun a => .text (toString a)) ip
  .object [
    ("user", .ofOption Identity.toJson r.user),
    ("device", .ofOption Device.toJson r.device),
    ("source_ip", address r.sourceIp),
    ("country", .ofOption .text r.country),
    ("destination_ip", address r.destinationIp),
    ("destination_sni", .ofOption .text r.destinationSni)]

/-- Reads a request. Every fact may be missing or `null`. -/
def reader : Json.Reader Request := fun room v => do
  let (room, fields) ← Json.Reader.fields
    ["user", "device", "source_ip", "country", "destination_ip", "destination_sni"] room v
  return {
    user := ← fields.optional "user" Identity.reader room
    device := ← fields.optional "device" Device.reader room
    sourceIp := ← fields.optional "source_ip" (.parsed Net.Address.parse?) room
    country := ← fields.optional "country" .text room
    destinationIp := ← fields.optional "destination_ip" (.parsed Net.Address.parse?) room
    destinationSni := ← fields.optional "destination_sni" .text room }

end Request

end ZeroTrust
