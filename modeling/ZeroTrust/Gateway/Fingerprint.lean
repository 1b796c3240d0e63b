/-
  `Gateway.Fingerprint` — what identifies a list of rules.

  Gateways compare the fingerprint of the rules they have with the current one. It
  is the digest of the compact text of the rules, in which every field of every
  rule is written in order. An empty list has a word in place of a digest.
-/
import ZeroTrust.Digest.Sha256
import ZeroTrust.Gateway.Rule
import ZeroTrust.Json.Printer

namespace ZeroTrust.Gateway

/-- The text of a list of rules of which the digest is taken. -/
def canonicalText (rules : List Rule) : String :=
  (rulesToJson rules).render

/-- The fingerprint of an empty list. -/
def emptyFingerprint : String := "empty"

/-- What identifies a list of rules. -/
def fingerprint (rules : List Rule) : String :=
  if rules.isEmpty then emptyFingerprint else Sha256.ofText (canonicalText rules)

@[simp] theorem fingerprint_nil : fingerprint [] = emptyFingerprint := rfl

end ZeroTrust.Gateway
