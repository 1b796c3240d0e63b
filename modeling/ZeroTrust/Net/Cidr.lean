/-
  `Net.Cidr` — networks of addresses of four octets.

  A network is an address and a length. It holds the addresses that agree with
  its own in that many leading bits. Bits of the address past the length are kept
  when a network is written back.

  Literals are read more freely than addresses are: an octet may have leading
  zeros, as long as it has at most three digits, and the length has one or two
  digits. A bare address is no network.
-/
import ZeroTrust.Net.Ipv4

namespace ZeroTrust.Net

/-- A network of addresses of four octets. -/
structure Cidr where
  /-- An address of the network. -/
  base : Ipv4
  /-- The number of leading bits that the addresses of the network share. -/
  length : Nat
  length_le : length ≤ 32
  deriving DecidableEq, Repr

namespace Cidr

/-- The leading bits of an address, as a number. -/
def leading (length : Nat) (a : Ipv4) : Nat :=
  a.toNat >>> (32 - length)

/-- Whether an address lies in the network. -/
def contains (net : Cidr) (a : Ipv4) : Bool :=
  leading net.length a == leading net.length net.base

/-- The address part of a literal. -/
def base? (cs : List Char) : Option Ipv4 :=
  match cs.splitOn '.' with
  | [a, b, c, d] => do
    let octet := Text.field? 3 255
    return .ofOctets (← octet a) (← octet b) (← octet c) (← octet d)
  | _ => none

/-- The network that a literal such as `10.0.0.0/24` writes. -/
def parse? (s : String) : Option Cidr :=
  match s.toList.splitOn '/' with
  | [address, length] => do
    let base ← base? address
    let n ← Text.field? 2 32 length
    if h : n ≤ 32 then some ⟨base, n, h⟩ else none
  | _ => none

/-- What is wrong with a text that is no network literal. -/
def complaint (s : String) : String :=
  s!"'{s}' is not an IPv4 CIDR literal (expected e.g. 10.0.0.0/24)"

instance : ToString Cidr where
  toString net := s!"{net.base}/{net.length}"

@[simp] theorem contains_base (net : Cidr) : net.contains net.base = true := by
  simp [contains]

/-- Every address lies in a network of length zero. -/
theorem contains_of_length_eq_zero {net : Cidr} (h : net.length = 0) (a : Ipv4) :
    net.contains a = true := by
  have leading_zero (b : Ipv4) : leading 0 b = 0 := by
    rw [leading, Nat.shiftRight_eq_div_pow, Nat.div_eq_of_lt b.toNat_lt]
  rw [contains, h, leading_zero, leading_zero, beq_self_eq_true]

example : (parse? "010.1.2.3/08").map toString = some "10.1.2.3/8" := by decide
example : (parse? "10.0.0.1").isNone = true := by decide

end Cidr

end ZeroTrust.Net
