/-
  `Net.Ipv6` — addresses of eight groups of sixteen bits.

  Groups are written in hexadecimal between colons. A double colon stands for one
  or more groups of zeros, and the last two groups may be written as a dotted
  quad. Neither brackets nor a zone belong to an address.

  Writing is canonical. Small letters, no leading zeros, and the longest run of
  at least two zero groups (the first of them, when several are longest) becomes
  the double colon. An address that maps one of four octets shows that address.
-/
import ZeroTrust.Net.Ipv4
import ZeroTrust.Text.Hex

namespace ZeroTrust.Net

/-- An address of eight groups. -/
structure Ipv6 where
  /-- The groups, first to last. -/
  groups : Vector UInt16 8
  deriving DecidableEq, Repr

namespace Ipv6

/-- The address with the given groups, when there are eight. -/
def ofGroups? (gs : List UInt16) : Option Ipv6 :=
  if h : gs.length = 8 then some ⟨⟨gs.toArray, by simpa using h⟩⟩ else none

/-! ### Mapped addresses -/

/-- The address of four octets that an address maps: its first five groups are zero and the sixth
holds ones only. -/
def mapped? (a : Ipv6) : Option Ipv4 :=
  match a.groups.toList with
  | [0, 0, 0, 0, 0, 0xFFFF, high, low] => some ⟨UInt32.ofNat (high.toNat * 65536 + low.toNat)⟩
  | _ => none

/-- The two groups that a dotted quad stands for. -/
def groupsOfIpv4 (a : Ipv4) : List UInt16 :=
  [UInt16.ofNat (a.toNat / 65536), UInt16.ofNat (a.toNat % 65536)]

/-! ### Reading -/

/-- A group: one to four hexadecimal digits. -/
def group? (cs : List Char) : Option UInt16 :=
  if cs.length ≤ 4 then (Text.hexDigits? cs).map UInt16.ofNat else none

/-- The groups that the pieces between colons write. Only the last piece may be a dotted quad, and
only where one is admitted. -/
def groupsOfPieces (admitQuad : Bool) : List (List Char) → Option (List UInt16)
  | [] => some []
  | [last] =>
    match group? last with
    | some g => some [g]
    | none => if admitQuad then (Ipv4.parse? (String.ofList last)).map groupsOfIpv4 else none
  | piece :: pieces => do return (← group? piece) :: (← groupsOfPieces admitQuad pieces)

/-- The groups of one side of a double colon; a side may be empty. -/
def side? (admitQuad : Bool) (cs : List Char) : Option (List UInt16) :=
  if cs.isEmpty then some [] else groupsOfPieces admitQuad (cs.splitOn ':')

/-- The text before and after the first double colon. -/
def cutDoubleColon : List Char → Option (List Char × List Char)
  | ':' :: ':' :: rest => some ([], rest)
  | c :: cs => (cutDoubleColon cs).map fun (before, after) => (c :: before, after)
  | [] => none

/-- The address that a text writes. -/
def parse? (s : String) : Option Ipv6 :=
  match cutDoubleColon s.toList with
  | none => do ofGroups? (← groupsOfPieces true (s.toList.splitOn ':'))
  | some (before, after) => do
    let front ← side? false before
    let back ← side? true after
    -- The double colon stands for one group at least.
    if front.length + back.length ≤ 7 then
      ofGroups? (front ++ List.replicate (8 - (front.length + back.length)) 0 ++ back)
    else none

/-! ### Writing -/

/-- How many zero groups stand at a place. -/
def zerosAt (gs : List UInt16) (i : Nat) : Nat :=
  ((gs.drop i).takeWhile (· == 0)).length

/-- The place of the first longest run of zero groups. -/
def longestRun (gs : List UInt16) : Nat :=
  (List.range gs.length).foldl (fun best i => if zerosAt gs best < zerosAt gs i then i else best) 0

/-- Groups between colons. -/
def showGroups (gs : List UInt16) : String :=
  ":".intercalate (gs.map fun g => Text.hex g.toNat)

/-- The canonical text of the groups of an address. -/
def showCompressed (gs : List UInt16) : String :=
  let start := longestRun gs
  let count := zerosAt gs start
  if count > 1 then showGroups (gs.take start) ++ "::" ++ showGroups (gs.drop (start + count))
  else showGroups gs

instance : ToString Ipv6 where
  toString a :=
    match a.mapped? with
    | some v4 => "::ffff:" ++ toString v4
    | none => showCompressed a.groups.toList

example : (parse? "2001:DB8::1").map toString = some "2001:db8::1" := by decide
example : (parse? "::ffff:1.2.3.4").bind mapped? = some (Ipv4.ofOctets 1 2 3 4) := by decide
example : (parse? "1:0:0:2:0:0:0:3").map toString = some "1:0:0:2::3" := by decide

end Ipv6

end ZeroTrust.Net
