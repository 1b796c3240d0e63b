/-
  `Engine.SettingsText` — settings from TOML.

  A document may hold the one table `evaluation` and nothing beside it. In the
  table each setting may be missing, and keys that are no settings are passed over.
  The settings may also be given as an array, in their order; what it lacks at its
  end is missing, and what it has beyond them is passed over. A word may also stand
  as the only key of a table, with an empty table or array for its value.
-/
import ZeroTrust.Engine.Settings
import ZeroTrust.Error
import ZeroTrust.Toml.Parser

namespace ZeroTrust.Settings

/-- A truth value. -/
def boolOf? : Toml.Value → Option Bool
  | .boolean b => some b
  | _ => none

/-- A text. -/
def textOf? : Toml.Value → Option String
  | .string s => some s
  | _ => none

/-- Whether a value is a table or an array that holds nothing. -/
def isVoid (v : Toml.Value) : Bool :=
  (v.entries?.any List.isEmpty) || (v.items?.any List.isEmpty)

/-- One of some values, each known by a word. -/
def wordOf? (values : List α) (name : α → String) (v : Toml.Value) : Option α := do
  let word ←
    match v, v.entries? with
    | .string s, _ => some s
    | _, some [(s, inner)] => if isVoid inner then some s else none
    | _, _ => none
  values.find? fun a => name a == word

/-- The value of a setting, if it is given. -/
def given? (read : Toml.Value → Option α) (default : α) : Option Toml.Value → Option α
  | some v => read v
  | none => some default

/-- The settings that some values give by name. -/
def ofEntries (entries : Toml.Entries) : Option Settings := do
  let verdict := wordOf? Verdict.all Verdict.name
  return {
    resolution := ← given? (wordOf? Resolution.all Resolution.name) default.resolution
      (entries.lookup "resolution")
    vacuousOr := ← given? boolOf? default.vacuousOr (entries.lookup "vacuous-or")
    accessDefault := ← given? verdict default.accessDefault (entries.lookup "access-default")
    signInDefault := ← given? verdict default.signInDefault (entries.lookup "sign-in-default")
    gateway := ← given? (fun v => (textOf? v).map some) none (entries.lookup "node-id") }

/-- The settings that a value gives. A date stands for a table without settings. -/
def ofValue (v : Toml.Value) : Option Settings :=
  match v, v.entries?, v.items? with
  | .datetime, _, _ => some default
  | _, some entries, _ => ofEntries entries
  | _, _, some items => ofEntries (fieldNames.zip items)
  | _, _, _ => none

/-- The settings that the entries of a document give. -/
def ofDocument : Toml.Entries → Option Settings
  | [] => some default
  | [("evaluation", v)] => ofValue v
  | _ => none

/-- Reads settings from their text. -/
def ofText (text : String) : Except Error Settings :=
  match (Toml.parse? text).bind ofDocument with
  | some settings => .ok settings
  | none => .error .malformedSettings

end ZeroTrust.Settings
