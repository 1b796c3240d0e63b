/-
  `Engine.Settings` — how decisions are made.

  The settings say how matching policies combine, what an empty disjunction means,
  what the answer is when no policy applies, and which gateway asks.
-/
import ZeroTrust.Decision.Basic
import ZeroTrust.Json.Reader

namespace ZeroTrust

/-- How matching policies combine. -/
inductive Resolution where
  /-- The first that applies decides. -/
  | firstMatch
  /-- The first that applies and denies decides; without one, the first that applies. -/
  | denyOverrides
  deriving DecidableEq, Repr

namespace Resolution

/-- Both resolutions. -/
def all : List Resolution := [firstMatch, denyOverrides]

/-- The word for a resolution. -/
def name : Resolution → String
  | firstMatch => "first-match"
  | denyOverrides => "deny-overrides"

end Resolution

/-- How decisions are made. -/
structure Settings where
  resolution : Resolution
  /-- Whether a disjunction without members matches. -/
  vacuousOr : Bool
  /-- The verdict when no access policy applies. -/
  accessDefault : Verdict
  /-- The verdict when no sign-in policy applies. -/
  signInDefault : Verdict
  /-- The gateway that asks. Policies confined to some gateways need one. -/
  gateway : Option String
  deriving DecidableEq, Repr

namespace Settings

/-- The settings where none are given. -/
def default : Settings where
  resolution := .firstMatch
  vacuousOr := true
  accessDefault := .deny
  signInDefault := .allow
  gateway := none

/-- The names of the settings in documents, in order. -/
def fieldNames : List String :=
  ["resolution", "vacuous-or", "access-default", "sign-in-default", "node-id"]

/-- The document of settings. -/
def toJson (s : Settings) : Json :=
  .object [
    ("resolution", .text s.resolution.name),
    ("vacuous-or", .bool s.vacuousOr),
    ("access-default", .text s.accessDefault.name),
    ("sign-in-default", .text s.signInDefault.name),
    ("node-id", .ofOption .text s.gateway)]

/-- Reads settings. Each may be missing. -/
def reader : Json.Reader Settings := fun room v => do
  let (room, fields) ← Json.Reader.fields fieldNames room v
  let verdict : Json.Reader Verdict := .word Verdict.all Verdict.name
  return {
    resolution := ← fields.withDefault "resolution" default.resolution
      (.word Resolution.all Resolution.name) room
    vacuousOr := ← fields.withDefault "vacuous-or" default.vacuousOr .bool room
    accessDefault := ← fields.withDefault "access-default" default.accessDefault verdict room
    signInDefault := ← fields.withDefault "sign-in-default" default.signInDefault verdict room
    gateway := ← fields.optional "node-id" .text room }

end Settings

end ZeroTrust
