/-
  `Net.Ipv4` — addresses of four octets.

  An address is a word of thirty-two bits. It is written as four decimal octets
  between points. Reading wants exactly that form: one to three digits in each
  octet, at most 255, and no leading zero.
-/
import ZeroTrust.Text.Decimal

namespace ZeroTrust.Net

/-- An address of thirty-two bits. -/
structure Ipv4 where
  /-- The bits, the first octet highest. -/
  word : UInt32
  deriving DecidableEq, Repr, Inhabited

namespace Ipv4

/-- The address as a number. -/
def toNat (a : Ipv4) : Nat :=
  a.word.toNat

/-- The address with four given octets. -/
def ofOctets (a b c d : Nat) : Ipv4 :=
  ⟨UInt32.ofNat (((a * 256 + b) * 256 + c) * 256 + d)⟩

/-- The octets of an address, first to last. -/
def octets (a : Ipv4) : List Nat :=
  [a.toNat >>> 24, a.toNat >>> 16 % 256, a.toNat >>> 8 % 256, a.toNat % 256]

/-- An octet without leading zeros. -/
def octet? (cs : List Char) : Option Nat :=
  if cs.length > 1 ∧ cs.head? = some '0' then none else Text.field? 3 255 cs

/-- The address that a dotted quad writes. -/
def parse? (s : String) : Option Ipv4 :=
  match s.toList.splitOn '.' with
  | [a, b, c, d] => do return ofOctets (← octet? a) (← octet? b) (← octet? c) (← octet? d)
  | _ => none

instance : ToString Ipv4 where
  toString a := ".".intercalate (a.octets.map toString)

/-- An address set aside for private networks: `10.0.0.0/8`, `172.16.0.0/12` or
`192.168.0.0/16`. -/
def isPrivate (a : Ipv4) : Bool :=
  a.toNat >>> 24 == 10 || a.toNat >>> 20 == 172 * 16 + 1 || a.toNat >>> 16 == 192 * 256 + 168

theorem toNat_lt (a : Ipv4) : a.toNat < 4294967296 :=
  a.word.toNat_lt

example : parse? "10.1.2.3" = some (ofOctets 10 1 2 3) := by decide
example : parse? "010.1.2.3" = none := by decide
example : toString (ofOctets 192 168 0 1) = "192.168.0.1" := by decide

end Ipv4

end ZeroTrust.Net
