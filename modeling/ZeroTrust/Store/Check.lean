/-
  `Store.Check` — what a bundle's content comes to when it is saved.

  Every item of a bundle is saved: each application by itself, and the policies of
  each family one after another into a store of their own, so that the second of
  two policies with one id is found out. There is one finding for each item, in the
  order of the bundle, whatever became of the items before it.
-/
import ZeroTrust.Policy.Bundle
import ZeroTrust.Store.Directory
import ZeroTrust.Store.Events

namespace ZeroTrust

/-- What a bundle holds. -/
inductive ItemKind where
  | application
  | access
  | signIn
  deriving DecidableEq, Repr

/-- The word for a kind of item. -/
def ItemKind.name : ItemKind → String
  | application => "application"
  | access => "access"
  | signIn => "sign-in"

/-- What became of one item. -/
structure Finding where
  kind : ItemKind
  /-- A description of the item, or why it was not saved. -/
  result : Except Error String

namespace Finding

/-- Whether the item was saved. -/
def passed (f : Finding) : Bool :=
  f.result.isOk

/-- The width of the column for the kind of an item. -/
def kindWidth : Nat := 13

/-- A text filled up to a width with blanks. -/
def column (width : Nat) (s : String) : String :=
  s ++ String.ofList (List.replicate (width - s.length) ' ')

/-- The line for an item. -/
def line (f : Finding) : String :=
  match f.result with
  | .ok description => s!"ok    {column kindWidth f.kind.name}{description}"
  | .error e => s!"FAIL  {column kindWidth f.kind.name}{e}"

end Finding

/-! ### Descriptions -/

/-- An access policy on one line. -/
def AccessPolicy.description (p : AccessPolicy) : String :=
  s!"{p.name} [{p.priority}] {p.root.summary}"

/-- A sign-in policy on one line. -/
def SignInPolicy.description (p : SignInPolicy) : String :=
  s!"{p.name} [{p.stage} {p.priority}] {p.root.summary}"

/-! ### Saving everything -/

namespace Store

variable {P : Type} [Policy P]

/-- The results of saving new policies one after another. Each comes with the id it is to have if
it has none of its own. -/
def createAll (s : Store P) :
    List (P × String) → List (Except Error (P × Store P))
  | [] => []
  | (p, fresh) :: rest =>
    match s.create fresh .epoch p with
    | .ok (saved, next) => .ok (saved, next) :: createAll next rest
    | .error e => .error e :: createAll s rest

end Store

namespace Bundle

/-- Policies with ids from a supply, counted from a number on. -/
def withIds (ids : Nat → String) (first : Nat) (policies : List P) : List (P × String) :=
  (policies.zipIdx first).map fun (p, n) => (p, ids n)

/-- The results of saving the access policies of a bundle. -/
def createAccess (b : Bundle) (ids : Nat → String) :
    List (Except Error (AccessPolicy × Store AccessPolicy)) :=
  Store.empty.createAll (withIds ids 0 b.access)

/-- The results of saving the sign-in policies of a bundle. -/
def createSignIn (b : Bundle) (ids : Nat → String) :
    List (Except Error (SignInPolicy × Store SignInPolicy)) :=
  Store.empty.createAll (withIds ids b.access.length b.signIn)

/-- The findings on policies, given their descriptions and the results of saving them. -/
def policyFindings (kind : ItemKind) (descriptions : List String)
    (results : List (Except Error α)) : List Finding :=
  (descriptions.zip results).map fun (description, result) =>
    ⟨kind, result.map fun _ => description⟩

/-- The finding on an application. -/
def applicationFinding (a : Application) : Finding :=
  ⟨.application, (Directory.empty.upsert a).map fun _ => a.name⟩

/-- The findings on everything in a bundle. -/
def findings (b : Bundle) (ids : Nat → String) : List Finding :=
  b.applications.map applicationFinding ++
    policyFindings .access (b.access.map AccessPolicy.description) (b.createAccess ids) ++
    policyFindings .signIn (b.signIn.map SignInPolicy.description) (b.createSignIn ids)

/-- What saving everything in a bundle reports. -/
def findingsEvents (b : Bundle) (ids : Nat → String) : List Event :=
  b.applications.flatMap Directory.upsertEvents ++
    (b.createAccess ids).flatMap Store.createEvents ++
    (b.createSignIn ids).flatMap Store.createEvents

end Bundle

end ZeroTrust
