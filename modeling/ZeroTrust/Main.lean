/-
  `Main` — the program.

  Reads the files that a command names, carries the command out, and writes what it
  leaves behind: its answer to the standard output, events and complaints to the
  standard error. The variable `ZTNA_LOG` says which events are written.
-/
import ZeroTrust.CommandLine.Run
import ZeroTrust.Log.Directive
import ZeroTrust.Text.Hex

namespace ZeroTrust.CommandLine

/-- The text of a file, if it can be read and is a text. -/
def readText (name : String) : IO (Option String) := do
  try
    return String.fromUTF8? (← IO.FS.readBinFile name)
  catch _ =>
    return none

/-- The texts of the files with some names. -/
def readTexts (names : List String) : IO (List (String × Option String)) :=
  names.mapM fun name => do return (name, ← readText name)

/-- The filter for events that the surroundings ask for. -/
def logFilter : IO LogFilter := do
  match ← IO.getEnv "ZTNA_LOG" with
  | some directive => return .ofDirective directive
  | none => return .default

/-- A supply of ids, none of which was ever given before. -/
def freshIds : IO (Nat → String) := do
  let bytes ← IO.getRandomBytes 16
  let seed := String.join (bytes.toList.map fun b => Text.hexByte b.toNat)
  return fun n => s!"{seed}-{n}"

end ZeroTrust.CommandLine

open ZeroTrust CommandLine in
/-- Runs the program on the words of its command line. -/
def main (words : List String) : IO UInt32 := do
  let files := ((Command.ofWords? words).map Command.files).getD []
  let texts ← readTexts files
  let world : World := ⟨fun name => (texts.lookup name).join, ← freshIds⟩
  let filter ← logFilter
  let result := runWords world words
  for event in result.events do
    if filter.admits event then IO.eprintln event.line
  IO.print result.output
  if let some complaint := result.complaint? then IO.eprintln complaint.message
  return result.exitCode.toUInt32
