/-
  `Condition.Vocabulary` — the closed set of things a condition can ask.

  A condition belongs to a kind of fact, and each kind has its own operators. An
  operator belongs to exactly one kind and reads exactly one field of a request.
  Editing, validation, evaluation and compilation all consult these tables, so
  they agree on what may be asked.
-/
namespace ZeroTrust

/-! ### The words -/

/-- The kind of fact a condition asks about. -/
inductive Kind where
  /-- Who signs in: groups and mail address. -/
  | user
  /-- Where the request comes from: source address and country. -/
  | network
  /-- The machine: operating system and management. -/
  | device
  deriving DecidableEq, Repr

/-- What a condition asks. -/
inductive Op where
  /-- The user belongs to a group. -/
  | inGroup
  /-- The user has a mail address. -/
  | is
  /-- The domain of the mail address is a given one or lies below it. -/
  | emailSuffix
  /-- The source address lies in a network. -/
  | cidr
  /-- The request comes from a country. -/
  | country
  /-- The source address is private. Takes no value. -/
  | isPrivate
  /-- The device runs an operating system. -/
  | os
  /-- The device is managed. Takes no value. -/
  | managed
  deriving DecidableEq, Repr

/-- The field of a request that an operator reads. -/
inductive Field where
  | group
  | email
  | ip
  | country
  | os
  | managed
  deriving DecidableEq, Repr

/-- The operating systems a condition may name. -/
inductive OperatingSystem where
  | windows
  | linux
  | darwin
  deriving DecidableEq, Repr

/-! ### Their names -/

namespace Kind

/-- Every kind, in the order an editor offers them. -/
def all : List Kind := [user, network, device]

/-- The word for a kind. -/
def name : Kind → String
  | user => "User"
  | network => "Network"
  | device => "Device"

instance : ToString Kind := ⟨name⟩

end Kind

namespace Op

/-- Every operator. -/
def all : List Op := [inGroup, is, emailSuffix, cidr, country, isPrivate, os, managed]

/-- The word for an operator. -/
def name : Op → String
  | inGroup => "in_group"
  | is => "is"
  | emailSuffix => "email_suffix"
  | cidr => "cidr"
  | country => "country"
  | isPrivate => "is_private"
  | os => "os"
  | managed => "managed"

instance : ToString Op := ⟨name⟩

end Op

namespace Field

/-- Every field. -/
def all : List Field := [group, email, ip, country, os, managed]

/-- The word for a field. -/
def name : Field → String
  | group => "group"
  | email => "email"
  | ip => "ip"
  | country => "country"
  | os => "os"
  | managed => "managed"

instance : ToString Field := ⟨name⟩

end Field

namespace OperatingSystem

/-- Every operating system. -/
def all : List OperatingSystem := [windows, linux, darwin]

/-- The word for an operating system. -/
def name : OperatingSystem → String
  | windows => "windows"
  | linux => "linux"
  | darwin => "darwin"

instance : ToString OperatingSystem := ⟨name⟩

/-- The operating system that a word names. -/
def named? (s : String) : Option OperatingSystem :=
  all.find? fun os => os.name == s

/-- What is wrong with a word that names no operating system. -/
def complaint (s : String) : String :=
  s!"unknown operating system '{s}' (expected windows, linux or darwin)"

end OperatingSystem

/-! ### Which word goes with which -/

/-- The kind that an operator belongs to. -/
def Op.kind : Op → Kind
  | inGroup | is | emailSuffix => .user
  | cidr | country | isPrivate => .network
  | os | managed => .device

/-- The field that an operator reads. -/
def Op.field : Op → Field
  | inGroup => .group
  | is | emailSuffix => .email
  | cidr | isPrivate => .ip
  | country => .country
  | os => .os
  | managed => .managed

/-- Whether the value of a condition with this operator means anything. -/
def Op.takesValue : Op → Bool
  | isPrivate | managed => false
  | _ => true

/-- The operators of a kind; the first is the one a new condition starts with. -/
def Kind.ops : Kind → List Op
  | user => [.inGroup, .is, .emailSuffix]
  | network => [.cidr, .country, .isPrivate]
  | device => [.os, .managed]

/-- The operator that a new condition of a kind starts with. -/
def Kind.defaultOp : Kind → Op
  | user => .inGroup
  | network => .cidr
  | device => .os

/-- Whether an operator belongs to a kind. -/
def Kind.allows (kind : Kind) (op : Op) : Bool :=
  op.kind == kind

/-! ### Laws -/

theorem Kind.allows_iff_mem_ops (kind : Kind) (op : Op) :
    kind.allows op = true ↔ op ∈ kind.ops := by
  cases kind <;> cases op <;> decide

@[simp] theorem Kind.allows_kind (op : Op) : op.kind.allows op = true := by
  simp [Kind.allows]

@[simp] theorem Kind.allows_defaultOp (kind : Kind) : kind.allows kind.defaultOp = true := by
  cases kind <;> decide

theorem Kind.head?_ops (kind : Kind) : kind.ops.head? = some kind.defaultOp := by
  cases kind <;> rfl

theorem Kind.name_injective {k l : Kind} (h : k.name = l.name) : k = l := by
  cases k <;> cases l <;> simp_all [Kind.name]

theorem Op.name_injective {o p : Op} (h : o.name = p.name) : o = p := by
  cases o <;> cases p <;> simp_all [Op.name]

/-- A word names an operating system exactly when it is that system's own. -/
theorem OperatingSystem.named?_eq_some_iff (s : String) (os : OperatingSystem) :
    named? s = some os ↔ s = os.name := by
  constructor
  · intro h
    have := List.find?_some h
    simpa using (beq_iff_eq.1 this).symm
  · rintro rfl
    cases os <;> decide

end ZeroTrust
