/-
  `CommandLine.Arguments` — the words that follow the program's name.

  The first word is a subcommand. After it come one operand, the file of a bundle,
  and options with their values in any order. A value stands in the next word or,
  after an equals sign, in the same one; a value in a word of its own starts with
  no dash. The word `--` ends the options. No option may stand twice, and every file
  has a name.
-/
import ZeroTrust.Policy.Stage

namespace ZeroTrust.CommandLine

/-! ### Words -/

/-- How a word is taken. -/
inductive Word where
  /-- A word by itself, or the value of the option before it. -/
  | operand (text : String)
  /-- An option whose value is the next word. -/
  | option (name : String)
  /-- An option with its value. -/
  | assignment (name value : String)
  | endOfOptions
  /-- A dash before letters; there are no such options. -/
  | flags
  deriving DecidableEq, Repr

/-- How a word is taken where options may stand. -/
def Word.ofText (s : String) : Word :=
  match s.toList with
  | ['-'] => .operand s
  | ['-', '-'] => .endOfOptions
  | '-' :: '-' :: cs =>
    let name := String.ofList (cs.takeWhile (· != '='))
    match cs.dropWhile (· != '=') with
    | [] => .option name
    | _ :: value => .assignment name (String.ofList value)
  | '-' :: _ => .flags
  | _ => .operand s

/-! ### Arguments -/

/-- What the words after a subcommand give. -/
structure Arguments where
  /-- The words that belong to no option, in order. -/
  operands : List String
  /-- The options with their values. -/
  options : List (String × String)
  deriving DecidableEq, Repr

namespace Arguments

/-- Adds an operand in front. -/
def addOperand (a : Arguments) (s : String) : Arguments :=
  { a with operands := s :: a.operands }

/-- Adds an option, if there is one of that name and it is not there yet. -/
def addOption? (names : List String) (a : Arguments) (name value : String) : Option Arguments :=
  if names.contains name && (a.options.lookup name).isNone then
    some { a with options := (name, value) :: a.options }
  else none

/-- The arguments that words give, where options have certain names. -/
def ofWords? (names : List String) : List String → Option Arguments
  | [] => some ⟨[], []⟩
  | word :: rest =>
    match Word.ofText word, rest with
    | .operand s, rest => (ofWords? names rest).map fun a => a.addOperand s
    | .assignment name value, rest =>
      (ofWords? names rest).bind fun a => a.addOption? names name value
    | .option name, next :: rest =>
      match Word.ofText next with
      | .operand value => (ofWords? names rest).bind fun a => a.addOption? names name value
      | _ => none
    | .endOfOptions, rest => some ⟨rest, []⟩
    | _, _ => none

/-- The name of a file. -/
def fileName? (s : String) : Option String :=
  if s = "" then none else some s

/-- The only operand, as the name of a file. -/
def operandFile? (a : Arguments) : Option String :=
  match a.operands with
  | [s] => fileName? s
  | _ => none

/-- The file that an option names, if the option is given. -/
def optionFile? (a : Arguments) (name : String) : Option (Option String) :=
  match a.options.lookup name with
  | none => some none
  | some s => (fileName? s).map some

/-- The file that an option names, which has to be given. -/
def requiredFile? (a : Arguments) (name : String) : Option String :=
  (a.optionFile? name).bind id

end Arguments

/-! ### Commands -/

/-- The word for a stage on the command line. -/
def stageWord : Stage → String
  | .preAuth => "pre-auth"
  | .postAuth => "post-auth"

/-- What the program is asked to do. Files are given by their names. -/
inductive Command where
  /-- Check everything in a bundle. -/
  | check (bundle : String)
  /-- Decide a request: a sign-in attempt where there is a stage, else an access request. -/
  | evaluate (stage : Option Stage) (bundle request : String) (settings ranges : Option String)
  /-- Compile the access policies of a bundle, for a gateway if one is given. -/
  | compile (bundle : String) (gateway settings : Option String)
  deriving DecidableEq, Repr

namespace Command

/-- The files that a command reads. -/
def files : Command → List String
  | check bundle => [bundle]
  | evaluate _ bundle request settings ranges =>
    [bundle, request] ++ settings.toList ++ ranges.toList
  | compile bundle _ settings => bundle :: settings.toList

/-- The command to decide a request. -/
def evaluateOf? (stage : Option Stage) (a : Arguments) : Option Command := do
  return .evaluate stage (← a.operandFile?) (← a.requiredFile? "context")
    (← a.optionFile? "config") (← a.optionFile? "geoip")

/-- The stage that is asked for. -/
def stageOf? (a : Arguments) : Option Stage := do
  let word ← a.options.lookup "stage"
  Stage.all.find? fun stage => stageWord stage == word

/-- The command that the words after the program's name give. -/
def ofWords? : List String → Option Command
  | "check" :: words => do
    let a ← Arguments.ofWords? [] words
    return .check (← a.operandFile?)
  | "evaluate-access" :: words => do
    evaluateOf? none (← Arguments.ofWords? ["context", "config", "geoip"] words)
  | "evaluate-sign-in" :: words => do
    let a ← Arguments.ofWords? ["stage", "context", "config", "geoip"] words
    evaluateOf? (some (← stageOf? a)) a
  | "compile" :: words => do
    let a ← Arguments.ofWords? ["node-id", "config"] words
    return .compile (← a.operandFile?) (a.options.lookup "node-id") (← a.optionFile? "config")
  | _ => none

end Command

end ZeroTrust.CommandLine
