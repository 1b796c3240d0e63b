/-
  `Log.Event` — what is reported while the program works.

  An event has a level, an origin, a message and named fields. The program's
  functions are pure and report nothing themselves: beside those worth reporting on
  stands a function that gives their events, in order, from the same input and the
  result. A line of a log shows the message and then each field; words of the
  program are quoted there, and texts from its input are not.
-/
import ZeroTrust.Text.Quoted

namespace ZeroTrust

/-- How much an event matters, most first. -/
inductive Level where
  | error
  | warn
  | info
  | debug
  deriving DecidableEq, Repr

namespace Level

/-- The place of a level among the levels. -/
def rank : Level → Nat
  | error => 1
  | warn => 2
  | info => 3
  | debug => 4

/-- The word for a level. -/
def name : Level → String
  | error => "ERROR"
  | warn => "WARN"
  | info => "INFO"
  | debug => "DEBUG"

end Level

/-- The part of the program that reports an event. -/
inductive Origin where
  | commandLine
  | editor
  | engine
  | snapshot
  | store
  | directory
  | ranges
  | gateway
  deriving DecidableEq, Repr

/-- The name of a part, by which a log can be told to show more of it or less. -/
def Origin.name : Origin → String
  | commandLine => "ztna"
  | editor => "ztna_core::editor"
  | engine => "ztna_policy::engine"
  | snapshot => "ztna_policy::snapshot"
  | store => "ztna_store::memory"
  | directory => "ztna_store::directory"
  | ranges => "ztna_store::geoip"
  | gateway => "ztna_gateway::compile"

/-- The value of a field. -/
inductive EventValue where
  | int (n : Int)
  | bool (b : Bool)
  /-- A word of the program. -/
  | word (s : String)
  /-- A text that is shown as it is. -/
  | text (s : String)
  deriving DecidableEq, Repr

/-- One thing reported. -/
structure Event where
  level : Level
  origin : Origin
  message : String
  fields : List (String × EventValue)
  deriving DecidableEq, Repr

namespace Event

/-- Whether an event has a field; its message counts as one. -/
def hasField (e : Event) (name : String) : Bool :=
  name == "message" || e.fields.any fun field => field.1 == name

/-- A value as a line of a log shows it. -/
def showValue : EventValue → String
  | .int n => toString n
  | .bool b => toString b
  | .word s => Text.quoted s
  | .text s => s

/-- The line of a log for an event. -/
def line (e : Event) : String :=
  let fields := e.fields.map fun (name, value) => s!"{name}={showValue value}"
  " ".intercalate (e.level.name :: e.message :: fields)

end Event

end ZeroTrust
