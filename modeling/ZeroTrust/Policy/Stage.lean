/-
  `Policy.Stage` — when a sign-in policy is consulted.

  Before authentication the user is not known, and only the network and the device
  can be asked about. Afterwards the user and the device can.
-/
import ZeroTrust.Condition.Basic

namespace ZeroTrust

/-- When a sign-in policy is consulted. -/
inductive Stage where
  /-- Before the user is known. -/
  | preAuth
  /-- After the user is known. -/
  | postAuth
  deriving DecidableEq, Repr

namespace Stage

/-- Both stages. -/
def all : List Stage := [preAuth, postAuth]

/-- The word for a stage. -/
def name : Stage → String
  | preAuth => "pre_auth"
  | postAuth => "post_auth"

instance : ToString Stage := ⟨name⟩

/-- The kinds of condition that a policy of this stage may hold. -/
def allowedKinds : Stage → List Kind
  | preAuth => [.network, .device]
  | postAuth => [.user, .device]

/-- Whether a policy of this stage may hold conditions of a kind. -/
def allows (stage : Stage) (kind : Kind) : Bool :=
  stage.allowedKinds.contains kind

/-- The kind of condition that an editor inserts first. -/
def defaultKind : Stage → Kind
  | preAuth => .network
  | postAuth => .user

@[simp] theorem allows_defaultKind (stage : Stage) : stage.allows stage.defaultKind = true := by
  cases stage <;> decide

/-- Reads a stage. -/
def reader : Json.Reader Stage :=
  .word all name

end Stage

end ZeroTrust
