/-
  `Toml.Value` — the values of a TOML document, and how statements build them.

  A table remembers how it came about, because that decides who may add to it. A
  table that a header defines is closed to other headers and to dotted keys. One
  that a header only passes through may still be defined by a header of its own.
  One that a dotted key passes through takes more dotted keys, but no header. An
  inline table is finished where it ends. A header that passes through an array of
  tables means the last of them.
-/
namespace ZeroTrust.Toml

/-- How a table came about. -/
inductive Origin where
  /-- A header defines it. -/
  | header
  /-- A header passes through it. -/
  | passed
  /-- A dotted key passes through it. -/
  | dotted
  deriving DecidableEq, Repr

/-- A value of a document. -/
inductive Value where
  | string (s : String)
  | boolean (b : Bool)
  /-- An integer or a float. -/
  | number
  | datetime
  | array (items : List Value)
  /-- A table written as one value. -/
  | inline (entries : List (String × Value))
  | table (origin : Origin) (entries : List (String × Value))
  /-- An array of tables, each defined by a header, first to last. -/
  | tables (items : List (List (String × Value)))
  deriving Repr

/-- The entries of a table. -/
abbrev Entries := List (String × Value)

namespace Value

/-- The entries of a table, inline or not. -/
def entries? : Value → Option Entries
  | inline entries => some entries
  | table _ entries => some entries
  | _ => none

/-- The items of an array, of tables or not. -/
def items? : Value → Option (List Value)
  | array items => some items
  | tables items => some (items.map inline)
  | _ => none

end Value

namespace Entries

/-- The entries with the value under a key replaced. -/
def replace (entries : Entries) (key : String) (v : Value) : Entries :=
  entries.map fun entry => if entry.1 = key then (key, v) else entry

/-- Changes the table that a path leads to, where that is allowed. The change is told whether a
dotted key has passed through the table. -/
def changeAt (origin : Origin) (change : Bool → Entries → Option Entries) (dotted : Bool) :
    List String → Entries → Option Entries
  | [], entries => change dotted entries
  | key :: path, entries =>
    match entries.lookup key with
    | none => do
      let inner ← changeAt origin change (origin == .dotted) path []
      return entries ++ [(key, .table origin inner)]
    | some (.table found inner) =>
      -- A dotted key does not reach into a table that a header has defined.
      if origin = .dotted ∧ found = .header then none
      else do
        let inner ← changeAt origin change (found == .dotted) path inner
        return entries.replace key (.table found inner)
    | some (.tables items) => do
      -- Of an array of tables the last is meant.
      let last ← items.getLast?
      let last ← changeAt origin change false path last
      return entries.replace key (.tables (items.dropLast ++ [last]))
    | some _ => none

/-- Adds a value under a key that is not there yet. -/
def add (key : String) (v : Value) (entries : Entries) : Option Entries :=
  if (entries.lookup key).isSome then none else some (entries ++ [(key, v)])

/-- Adds a value under a dotted key to a table. -/
def addDotted (path : List String) (key : String) (v : Value) (entries : Entries) :
    Option Entries :=
  changeAt .dotted (fun dotted entries =>
    if dotted = path.isEmpty then none else add key v entries) false path entries

/-- Defines a table under a key by a header. -/
def define (key : String) (entries : Entries) : Option Entries :=
  match entries.lookup key with
  | none => some (entries ++ [(key, .table .header [])])
  | some (.table .passed inner) => some (entries.replace key (.table .header inner))
  | some _ => none

/-- Begins another table of the array of tables under a key. -/
def push (key : String) (entries : Entries) : Option Entries :=
  match entries.lookup key with
  | none => some (entries ++ [(key, .tables [[]])])
  | some (.tables items) => some (entries.replace key (.tables (items ++ [[]])))
  | some _ => none

end Entries

end ZeroTrust.Toml
