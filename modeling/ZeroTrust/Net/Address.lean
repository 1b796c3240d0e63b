/-
  `Net.Address` — an address of either size.

  Policies speak of addresses of four octets only. `ipv4?` gives that form: an
  address of four octets is its own, a longer one has it when it maps one.
-/
import ZeroTrust.Net.Ipv6

namespace ZeroTrust.Net

/-- An address of four octets or of eight groups. -/
inductive Address where
  | v4 (a : Ipv4)
  | v6 (a : Ipv6)
  deriving DecidableEq, Repr

namespace Address

/-- The address of four octets that an address is or maps. -/
def ipv4? : Address → Option Ipv4
  | v4 a => some a
  | v6 a => a.mapped?

/-- The address that a text writes. -/
def parse? (s : String) : Option Address :=
  match Ipv4.parse? s with
  | some a => some (v4 a)
  | none => (Ipv6.parse? s).map v6

instance : ToString Address where
  toString
    | v4 a => toString a
    | v6 a => toString a

@[simp] theorem ipv4?_v4 (a : Ipv4) : (v4 a).ipv4? = some a := rfl

end Address

end ZeroTrust.Net
