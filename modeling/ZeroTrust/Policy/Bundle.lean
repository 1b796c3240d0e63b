/-
  `Policy.Bundle` — applications, and the policies of both families in one document.

  An application is a named list of networks that access policies can aim at by
  its id.
-/
import ZeroTrust.Policy.SignIn

namespace ZeroTrust

/-- A named list of networks. -/
structure Application where
  id : String
  name : String
  description : String
  /-- The literals of its networks. -/
  cidrs : List String
  deriving DecidableEq, Repr

namespace Application

/-- The document of an application. -/
def toJson (a : Application) : Json :=
  .object [
    ("id", .text a.id),
    ("name", .text a.name),
    ("description", .text a.description),
    ("cidrs", .ofList .text a.cidrs)]

/-- Reads an application. Only id and name have to be given. -/
def reader : Json.Reader Application := fun room v => do
  let (room, fields) ← Json.Reader.fields ["id", "name", "description", "cidrs"] room v
  return {
    id := ← fields.required "id" .text room
    name := ← fields.required "name" .text room
    description := ← fields.withDefault "description" "" .text room
    cidrs := ← fields.withDefault "cidrs" [] (.list .text) room }

end Application

/-- Policies of both families and the applications they aim at. -/
structure Bundle where
  access : List AccessPolicy
  signIn : List SignInPolicy
  applications : List Application
  deriving DecidableEq, Repr

namespace Bundle

/-- The document of a bundle. -/
def toJson (b : Bundle) : Json :=
  .object [
    ("access_policies", .ofList AccessPolicy.toJson b.access),
    ("sign_in_policies", .ofList SignInPolicy.toJson b.signIn),
    ("applications", .ofList Application.toJson b.applications)]

/-- Reads a bundle. Each of its lists may be missing. -/
def reader : Json.Reader Bundle := fun room v => do
  let (room, fields) ←
    Json.Reader.fields ["access_policies", "sign_in_policies", "applications"] room v
  return {
    access := ← fields.withDefault "access_policies" [] (.list AccessPolicy.reader) room
    signIn := ← fields.withDefault "sign_in_policies" [] (.list SignInPolicy.reader) room
    applications := ← fields.withDefault "applications" [] (.list Application.reader) room }

end Bundle

end ZeroTrust
