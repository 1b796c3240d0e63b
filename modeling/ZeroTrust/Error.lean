/-
  `Error` — what can go wrong.

  An error is its cause. `message` puts it into words; for documents that cannot
  be read it names the kind of document and, where a node is both leaf and branch,
  says so.
-/
import ZeroTrust.CountryRanges
import ZeroTrust.Json.Reader
import ZeroTrust.Validation.Report

namespace ZeroTrust

/-- The kinds of document that hold policies. -/
inductive DocumentKind where
  | tree
  | access
  | signIn
  | bundle
  deriving DecidableEq, Repr

/-- The words for a kind of document. -/
def DocumentKind.name : DocumentKind → String
  | tree => "policy node"
  | access => "access policy"
  | signIn => "sign-in policy"
  | bundle => "policy bundle"

/-- What a file is read for. -/
inductive FileRole where
  | document
  | settings
  | ranges
  deriving DecidableEq, Repr

/-- The words for what a file holds, up to its name. -/
def FileRole.label : FileRole → String
  | document => ""
  | settings => "engine config "
  | ranges => "GeoIP ranges "

/-- What can go wrong. -/
inductive Error where
  /-- A document holds no policies of the kind that was looked for. -/
  | malformed (kind : DocumentKind) (cause : Json.ReadError)
  /-- A subject did not pass its checks. -/
  | invalid (subject : String) (report : Report)
  /-- A policy was saved on top of another version than the stored one. -/
  | versionConflict (id : String) (expected actual : Nat)
  | policyNotFound (id : String)
  | applicationNotFound (id : String)
  /-- A new policy has the id of a stored one. -/
  | alreadyExists (family id : String)
  /-- A document holds no request. -/
  | malformedRequest
  /-- A document holds no settings. -/
  | malformedSettings
  /-- A text, from a file if one is named, holds no ranges. -/
  | malformedRanges (file : Option String) (fault : RangesFault)
  | unreadableFile (role : FileRole) (name : String)
  /-- The tree of a policy makes more rules than allowed. -/
  | tooManyRules (policy : String) (limit : Nat)
  deriving DecidableEq, Repr

namespace Error

/-- What is said of a document beyond its kind. -/
def detail : Json.ReadError → String
  | .unreadable => ""
  | .leafAndBranch =>
    ": policy node has both `condition` and `children`; a node must be a leaf or a branch"

/-- The words for an error. -/
def message : Error → String
  | malformed kind cause =>
    s!"malformed policy document: failed to decode {kind.name}{detail cause}"
  | invalid subject report => s!"policy '{subject}' failed validation: {report.summary}"
  | versionConflict id expected actual =>
    s!"version conflict on policy '{id}': expected version {expected}, stored version is {actual}"
  | policyNotFound id => s!"policy '{id}' not found"
  | applicationNotFound id => s!"application '{id}' not found"
  | alreadyExists family id => s!"policy store error: {family} policy '{id}' already exists"
  | malformedRequest => "configuration error: failed to decode request context"
  | malformedSettings => "configuration error: failed to parse engine TOML"
  | malformedRanges none fault => s!"configuration error: {fault.message}"
  | malformedRanges (some file) fault => s!"configuration error: {file}: {fault.message}"
  | unreadableFile role name => s!"configuration error: failed to read {role.label}'{name}'"
  | tooManyRules policy limit =>
    s!"gateway compilation failed: policy '{policy}': tree expands to more than {limit} " ++
      "gateway rules; simplify its OR groups"

instance : ToString Error := ⟨message⟩

end Error

/-- Turns a report into an error about its subject, unless it passed. -/
def Report.orInvalid (report : Report) (subject : String) : Except Error Unit :=
  if report.passed then .ok () else .error (.invalid subject report)

/-! ### Documents from texts -/

/-- Reads a document of some kind from a text. -/
def readDocument (kind : DocumentKind) (reader : Json.Reader α) (s : String) : Except Error α :=
  (reader.run s).mapError (.malformed kind)

end ZeroTrust
