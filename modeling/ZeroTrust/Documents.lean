/-
  `Documents` — texts of the documents that hold policies.

  Reading takes the JSON text of a tree, a policy or a bundle, with at most as
  many arrays and objects inside one another as `Json.nestingLimit` says.
  `Json.render` of a document is the text that is written.
-/
import ZeroTrust.Error
import ZeroTrust.Json.Printer
import ZeroTrust.Policy.Bundle

namespace ZeroTrust

/-- Reads a tree from its text. -/
def Tree.ofText (s : String) : Except Error Tree :=
  readDocument .tree Tree.reader s

/-- Reads an access policy from its text. -/
def AccessPolicy.ofText (s : String) : Except Error AccessPolicy :=
  readDocument .access AccessPolicy.reader s

/-- Reads a sign-in policy from its text. -/
def SignInPolicy.ofText (s : String) : Except Error SignInPolicy :=
  readDocument .signIn SignInPolicy.reader s

/-- Reads a bundle from its text. -/
def Bundle.ofText (s : String) : Except Error Bundle :=
  readDocument .bundle Bundle.reader s

/-- The text of a tree. -/
def Tree.toText (t : Tree) : String :=
  t.toJson.render

/-- The text of an access policy. -/
def AccessPolicy.toText (p : AccessPolicy) : String :=
  p.toJson.render

/-- The text of a sign-in policy. -/
def SignInPolicy.toText (p : SignInPolicy) : String :=
  p.toJson.render

/-- The text of a bundle. -/
def Bundle.toText (b : Bundle) : String :=
  b.toJson.render

end ZeroTrust
