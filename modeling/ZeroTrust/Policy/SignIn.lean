/-
  `Policy.SignIn` — rules for signing in.

  A sign-in policy belongs to a stage. When its tree matches, it refuses the
  attempt if it blocks, and admits it otherwise.
-/
import ZeroTrust.Policy.Access
import ZeroTrust.Policy.Stage

namespace ZeroTrust

/-- A rule for signing in. -/
structure SignInPolicy where
  /-- The name it is filed under; empty until a store assigns one. -/
  id : String
  name : String
  /-- Policies of lower priority are consulted first. -/
  priority : Int32
  /-- Whether a match refuses the attempt. -/
  block : Bool
  stage : Stage
  root : Tree
  enabled : Bool
  /-- Counts the saves; zero means never saved. -/
  version : Nat
  updatedAt : Option Timestamp
  deriving DecidableEq, Repr

namespace SignInPolicy

/-- A new policy: enabled, admitting everything. -/
def new (name : String) (priority : Int32) (stage : Stage) : SignInPolicy where
  id := ""
  name := name
  priority := priority
  block := false
  stage := stage
  root := .empty
  enabled := true
  version := 0
  updatedAt := none

/-- The document of a policy. An absent moment is left out. -/
def toJson (p : SignInPolicy) : Json :=
  .object (
    [("id", .text p.id),
      ("name", .text p.name),
      ("priority", .int p.priority.toInt),
      ("block", .bool p.block),
      ("stage", .text p.stage.name),
      ("root_node", p.root.toJson),
      ("enabled", .bool p.enabled),
      ("version", .int p.version)] ++
    memberOfOption "updated_at" (p.updatedAt.map fun t => .text (toString t)))

/-- The names of the fields of a policy's document, in order. -/
def fieldNames : List String :=
  ["id", "name", "priority", "block", "stage", "root_node", "enabled", "version", "updated_at"]

/-- Reads a policy. Only name, priority and stage have to be given. -/
def reader : Json.Reader SignInPolicy := fun room v => do
  let (room, fields) ← Json.Reader.fields fieldNames room v
  return {
    id := ← fields.withDefault "id" "" .text room
    name := ← fields.required "name" .text room
    priority := ← fields.required "priority" priorityReader room
    block := ← fields.withDefault "block" false .bool room
    stage := ← fields.required "stage" Stage.reader room
    root := ← fields.withDefault "root_node" .empty Tree.reader room
    enabled := ← fields.withDefault "enabled" true .bool room
    version := ← fields.withDefault "version" 0 .nat room
    updatedAt := ← fields.optional "updated_at" (.parsed Timestamp.parse?) room }

end SignInPolicy

end ZeroTrust
