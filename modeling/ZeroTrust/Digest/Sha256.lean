/-
  `Digest.Sha256` — the hash SHA-256 of FIPS 180-4.

  A message is padded to whole blocks of sixteen words. Each block is stretched to
  sixty-four words, which are mixed into eight words of state one round after
  another. The digest is the state after the last block, here in hexadecimal.
-/
import ZeroTrust.Text.Hex

namespace ZeroTrust.Sha256

/-! ### Padding -/

/-- The eight bytes of a number, highest first. -/
def lengthBytes (n : Nat) : List UInt8 :=
  (List.range 8).map fun i => UInt8.ofNat (n >>> (8 * (7 - i)))

/-- The number of zero bytes between a message and its length. -/
def zeroCount (size : Nat) : Nat :=
  (119 - size % 64) % 64

/-- A message followed by a mark, zeros and its length in bits. -/
def pad (message : List UInt8) : List UInt8 :=
  message ++ 0x80 :: List.replicate (zeroCount message.length) 0 ++ lengthBytes (8 * message.length)

/-- Padding fills up whole blocks of sixty-four bytes. -/
theorem length_pad (message : List UInt8) : (pad message).length % 64 = 0 := by
  simp only [pad, zeroCount, lengthBytes, List.length_append, List.length_cons,
    List.length_replicate, List.length_map, List.length_range]
  omega

/-- The words that bytes make, four each, highest first. -/
def words : List UInt8 → List UInt32
  | a :: b :: c :: d :: rest =>
    UInt32.ofNat (((a.toNat * 256 + b.toNat) * 256 + c.toNat) * 256 + d.toNat) :: words rest
  | _ => []

/-! ### Mixing -/

/-- A word turned to the right. -/
def rotate (w : UInt32) (n : UInt32) : UInt32 :=
  (w >>> n) ||| (w <<< (32 - n))

/-- One word of each round. -/
def roundConstants : List UInt32 := [
  0x428A2F98, 0x71374491, 0xB5C0FBCF, 0xE9B5DBA5, 0x3956C25B, 0x59F111F1, 0x923F82A4, 0xAB1C5ED5,
  0xD807AA98, 0x12835B01, 0x243185BE, 0x550C7DC3, 0x72BE5D74, 0x80DEB1FE, 0x9BDC06A7, 0xC19BF174,
  0xE49B69C1, 0xEFBE4786, 0x0FC19DC6, 0x240CA1CC, 0x2DE92C6F, 0x4A7484AA, 0x5CB0A9DC, 0x76F988DA,
  0x983E5152, 0xA831C66D, 0xB00327C8, 0xBF597FC7, 0xC6E00BF3, 0xD5A79147, 0x06CA6351, 0x14292967,
  0x27B70A85, 0x2E1B2138, 0x4D2C6DFC, 0x53380D13, 0x650A7354, 0x766A0ABB, 0x81C2C92E, 0x92722C85,
  0xA2BFE8A1, 0xA81A664B, 0xC24B8B70, 0xC76C51A3, 0xD192E819, 0xD6990624, 0xF40E3585, 0x106AA070,
  0x19A4C116, 0x1E376C08, 0x2748774C, 0x34B0BCB5, 0x391C0CB3, 0x4ED8AA4A, 0x5B9CCA4F, 0x682E6FF3,
  0x748F82EE, 0x78A5636F, 0x84C87814, 0x8CC70208, 0x90BEFFFA, 0xA4506CEB, 0xBEF9A3F7, 0xC67178F2]

/-- The next word of a stretched block, made from four of the words before it. -/
def nextWord (ws : Array UInt32) (i : Nat) : UInt32 :=
  let u := ws.getD (i + 1) 0
  let v := ws.getD (i + 14) 0
  let small := rotate u 7 ^^^ rotate u 18 ^^^ (u >>> 3)
  let large := rotate v 17 ^^^ rotate v 19 ^^^ (v >>> 10)
  ws.getD i 0 + small + ws.getD (i + 9) 0 + large

/-- A block of sixteen words stretched to sixty-four. -/
def stretch (block : List UInt32) : List UInt32 :=
  ((List.range 48).foldl (fun ws i => ws.push (nextWord ws i)) block.toArray).toList

/-- The eight words that rounds change. -/
structure State where
  a : UInt32
  b : UInt32
  c : UInt32
  d : UInt32
  e : UInt32
  f : UInt32
  g : UInt32
  h : UInt32
  deriving DecidableEq, Repr

namespace State

/-- The state before the first block. -/
def initial : State :=
  ⟨0x6A09E667, 0xBB67AE85, 0x3C6EF372, 0xA54FF53A, 0x510E527F, 0x9B05688C, 0x1F83D9AB, 0x5BE0CD19⟩

/-- One round, given its constant and its word. -/
def round (s : State) (constant word : UInt32) : State :=
  let choice := (s.e &&& s.f) ^^^ ((s.e ^^^ 0xFFFFFFFF) &&& s.g)
  let majority := (s.a &&& s.b) ^^^ (s.a &&& s.c) ^^^ (s.b &&& s.c)
  let t := s.h + (rotate s.e 6 ^^^ rotate s.e 11 ^^^ rotate s.e 25) + choice + constant + word
  let u := (rotate s.a 2 ^^^ rotate s.a 13 ^^^ rotate s.a 22) + majority
  ⟨t + u, s.a, s.b, s.c, s.d + t, s.e, s.f, s.g⟩

/-- The sum of two states, word by word. -/
def add (s t : State) : State :=
  ⟨s.a + t.a, s.b + t.b, s.c + t.c, s.d + t.d, s.e + t.e, s.f + t.f, s.g + t.g, s.h + t.h⟩

/-- The state after a block. -/
def absorb (s : State) (block : List UInt32) : State :=
  s.add ((roundConstants.zip (stretch block)).foldl (fun s (k, w) => s.round k w) s)

/-- The words of a state, in order. -/
def words (s : State) : List UInt32 :=
  [s.a, s.b, s.c, s.d, s.e, s.f, s.g, s.h]

end State

/-! ### Digest -/

/-- The state after all blocks of a message. -/
def finalState (message : List UInt8) : State :=
  let ws := words (pad message)
  (List.range (ws.length / 16)).foldl (fun s i => s.absorb ((ws.drop (16 * i)).take 16)) .initial

/-- A word as eight hexadecimal digits. -/
def showWord (w : UInt32) : List Char :=
  (List.range 4).flatMap fun i => (Text.hexByte (w.toNat >>> (8 * (3 - i)) % 256)).toList

/-- The digest of a message as sixty-four hexadecimal digits. -/
def hexDigest (message : List UInt8) : String :=
  String.ofList ((finalState message).words.flatMap showWord)

/-- The digest of the UTF-8 bytes of a text. -/
def ofText (s : String) : String :=
  hexDigest s.toUTF8.data.toList

theorem length_hexDigest (message : List UInt8) : (hexDigest message).length = 64 := by
  simp [hexDigest, State.words, showWord, List.range_succ, Text.hexByte]

end ZeroTrust.Sha256
