/-
  `CommandLine.Run` — carrying out a command.

  A run reads its files one after another and stops at the first that is missing or
  cannot be understood. What it leaves behind is an exit code, a text to print, at
  most one complaint, and the events on the way. The code is zero where a check
  passes, a request is allowed or rules are compiled, one where a check fails or a
  request is denied, and two where there is a complaint.
-/
import ZeroTrust.CommandLine.Arguments
import ZeroTrust.Decision.Document
import ZeroTrust.Documents
import ZeroTrust.Engine.Bundle
import ZeroTrust.Engine.SettingsText
import ZeroTrust.Store.Check

namespace ZeroTrust.CommandLine

/-! ### Results -/

/-- Why a run gives no answer. -/
inductive Complaint where
  /-- The words on the command line give no command. -/
  | misuse
  | failure (cause : Error)
  deriving DecidableEq, Repr

/-- How the program is used. -/
def usage : String :=
  "usage: ztna check BUNDLE\n" ++
  "       ztna evaluate-access BUNDLE --context FILE [--config FILE] [--geoip FILE]\n" ++
  "       ztna evaluate-sign-in BUNDLE --stage pre-auth|post-auth --context FILE " ++
    "[--config FILE] [--geoip FILE]\n" ++
  "       ztna compile BUNDLE [--node-id GATEWAY] [--config FILE]"

/-- The words for a complaint. -/
def Complaint.message : Complaint → String
  | misuse => usage
  | failure cause => s!"ztna: {cause}"

/-- An answer: the text to print and whether it is a good one. -/
structure Answer where
  output : String
  passed : Bool
  deriving DecidableEq, Repr

/-- What a run leaves behind. -/
structure Result where
  answer : Except Complaint Answer
  events : List Event

namespace Result

/-- The code with which the program ends. -/
def exitCode (r : Result) : UInt8 :=
  match r.answer with
  | .ok ⟨_, true⟩ => 0
  | .ok ⟨_, false⟩ => 1
  | .error _ => 2

/-- The text to print. -/
def output (r : Result) : String :=
  match r.answer with
  | .ok answer => answer.output
  | .error _ => ""

/-- The complaint, if there is one. -/
def complaint? (r : Result) : Option Complaint :=
  match r.answer with
  | .ok _ => none
  | .error complaint => some complaint

end Result

/-! ### Runs -/

/-- What a run depends on. -/
structure World where
  /-- The text of the file with a name, if there is one. -/
  file : String → Option String
  /-- Ids for policies that have none. -/
  ids : Nat → String

/-- A part of a run: it reports events, and it may fail. -/
abbrev Job := ExceptT Error (StateM (List Event))

namespace Job

/-- Reports events. -/
def report (events : List Event) : Job Unit :=
  modify fun before => before ++ events

/-- The value of something that may fail. -/
def get (result : Except Error α) : Job α :=
  match result with
  | .ok a => pure a
  | .error e => throw e

end Job

/-- The text of a file. -/
def World.content (w : World) (role : FileRole) (name : String) : Except Error String :=
  match w.file name with
  | some text => .ok text
  | none => .error (.unreadableFile role name)

/-- What having read a bundle reports. -/
def loadedEvent (b : Bundle) : Event :=
  ⟨.debug, .commandLine, "bundle loaded",
    [("access", .int b.access.length), ("sign_in", .int b.signIn.length),
      ("applications", .int b.applications.length)]⟩

/-- Reads the bundle in a file. -/
def readBundle (w : World) (name : String) : Job Bundle := do
  let bundle ← Job.get (w.content .document name >>= Bundle.ofText)
  Job.report [loadedEvent bundle]
  return bundle

/-- Reads the request in a file. -/
def readRequest (w : World) (name : String) : Except Error Request := do
  let text ← w.content .document name
  (Request.reader.run text).mapError fun _ => .malformedRequest

/-- Reads the settings in a file, if there is one. -/
def readSettings (w : World) : Option String → Except Error Settings
  | none => .ok .default
  | some name => w.content .settings name >>= Settings.ofText

/-- Reads the ranges in a file, if there is one. -/
def readRanges (w : World) : Option String → Job CountryRanges
  | none => return .empty
  | some name => do
    let text ← Job.get (w.content .ranges name)
    let ranges ← Job.get ((CountryRanges.ofText text).mapError (.malformedRanges (some name)))
    Job.report
      [⟨.info, .ranges, "GeoIP ranges loaded",
        [("path", .text name), ("ranges", .int ranges.size)]⟩]
    return ranges

/-- Carries out a command. -/
def job (w : World) : Command → Job Answer
  | .check bundle => do
    let bundle ← readBundle w bundle
    Job.report (bundle.findingsEvents w.ids)
    let findings := bundle.findings w.ids
    return ⟨String.join (findings.map fun f => f.line ++ "\n"), findings.all Finding.passed⟩
  | .evaluate stage bundle request settings ranges => do
    let bundle ← readBundle w bundle
    let settings ← Job.get (readSettings w settings)
    let request ← Job.get (readRequest w request)
    Job.report (Directory.ofValidApplicationsEvents bundle.applications)
    let ranges ← readRanges w ranges
    Job.report (bundle.decideEvents settings ranges stage request)
    let decision := bundle.decide settings ranges stage request
    return ⟨decision.toJson.pretty ++ "\n", decision.verdict == .allow⟩
  | .compile bundle gateway settings => do
    let bundle ← readBundle w bundle
    let settings ← Job.get (readSettings w settings)
    Job.report (Directory.ofValidApplicationsEvents bundle.applications)
    -- Warnings about policies come even where one of them makes too many rules.
    Job.report (bundle.compileEvents settings gateway)
    let config ← Job.get (bundle.compile settings gateway)
    return ⟨config.toJson.pretty ++ "\n", true⟩

/-- The result of a command. -/
def run (w : World) (command : Command) : Result :=
  let (answer, events) := (job w command).run.run []
  ⟨answer.mapError .failure, events⟩

/-- The result of the words after the program's name. -/
def runWords (w : World) (words : List String) : Result :=
  match Command.ofWords? words with
  | some command => run w command
  | none => ⟨.error .misuse, []⟩

end ZeroTrust.CommandLine
