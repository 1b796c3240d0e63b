/-
  `Log.Directive` — how it is said which events are let through.

  A directive is a list of pieces between commas; empty pieces do not count, and a
  directive without pieces asks for errors only. A piece is a level alone, or the
  start of the name of an origin, then a condition in brackets, then an equals sign
  and a level, each of which may be missing:

      debug      ztna_policy=info      ztna_store[task{field}]=warn

  A level is a word in any case or a number. Where it is missing, everything is let
  through. In the brackets stand the name of a task that has to be under way and,
  between braces, a field, with a value or without; a value is a number or a pattern.
  As the program has no tasks with a name or with fields, a piece that asks for a task
  or for a value has no effect; one that asks for a field alone lets through the
  events that have it.

  If one piece cannot be read, the whole directive gives way to the default.
-/
import ZeroTrust.Log.Filter
import ZeroTrust.Pattern.Support
import ZeroTrust.Text.AsciiCase
import ZeroTrust.Text.Decimal

namespace ZeroTrust.LogFilter

/-! ### Levels -/

/-- The rank that lets everything through. -/
def everything : Nat := 5

/-- The number that some digits write, after a plus sign or not. -/
def levelNumber? (text : List Char) : Option Nat :=
  let digits := match text with
    | '+' :: digits => digits
    | digits => digits
  if digits.isEmpty || !digits.all Char.isDigit then none
  else some (Nat.ofDigitChars 10 digits 0)

/-- The rank that the word or the number of a level asks for. -/
def rank? (text : List Char) : Option Nat :=
  match Text.lower (String.ofList text) with
  | "off" => some 0
  | "error" => some Level.error.rank
  | "warn" => some Level.warn.rank
  | "info" => some Level.info.rank
  | "debug" => some Level.debug.rank
  | "trace" => some everything
  | _ => (levelNumber? text).filter (· ≤ everything)

/-! ### Pieces -/

/-- What a piece asks for. -/
inductive Wish where
  | rule (rule : LogRule)
  /-- It is about tasks or values, of which there are none. -/
  | idle
  deriving DecidableEq, Repr

/-- How many bytes some characters take. -/
def bytes (cs : List Char) : Nat :=
  (String.ofList cs).utf8ByteSize

/-- The characters from a place on, which is given in bytes. -/
def dropBytes : Nat → List Char → List Char
  | _, [] => []
  | n, c :: cs => if n = 0 then c :: cs else dropBytes (n - c.utf8Size) cs

/-- The characters up to a place, which is given in bytes. -/
def takeBytes : Nat → List Char → List Char
  | _, [] => []
  | n, c :: cs => if n = 0 then [] else c :: takeBytes (n - c.utf8Size) cs

/-- A piece as it is written. Its parts are found without the blanks at its ends, and they are cut
out of it at the places so found, counted from its start. A piece that starts with a blank is
therefore cut too early. -/
structure Piece where
  written : List Char

namespace Piece

/-- The part from a place on. -/
def after (piece : Piece) (start : Nat) : List Char :=
  dropBytes start piece.written

/-- The part between two places. -/
def between (piece : Piece) (start stop : Nat) : List Char :=
  takeBytes (stop - start) (piece.after start)

/-- The end of a piece, from a place on: nothing, or an equals sign and a level. -/
def levelPart (piece : Piece) (place : Nat) : List Char → Option Nat
  | [] => some everything
  | '=' :: _ =>
    let level := piece.after (place + 1)
    if level.isEmpty then some everything else rank? level
  | _ => none

/-- A value of a field. It is a pattern, or a number after a plus sign, which is no pattern; other
numbers are patterns, too. -/
def isValue (cs : List Char) : Bool :=
  match cs with
  | '+' :: number =>
    ["inf", "infinity", "nan"].contains (Text.lower (String.ofList number)) ||
      Text.isUnsignedReal number
  | cs => Pattern.isUsable cs

/-- What is asked of a field: its name, unless a value is asked for. A second equals sign ends the
value. -/
def fieldName? (field : List Char) : Option (Option String) :=
  match field.dropWhile (· != '=') with
  | [] => some (some (String.ofList field))
  | _ :: rest => if isValue (rest.takeWhile (· != '=')) then some none else none

/-- A field between braces from its first character on: what is asked of it, then the place after
the brackets and what follows them. -/
def fieldPart (piece : Piece) (place : Nat) (cs : List Char) :
    Option (Option String × Nat × List Char) := do
  let inside := cs.takeWhile (· != '\x7d')
  let stop := place + bytes inside
  match cs.dropWhile (· != '\x7d') with
  | '\x7d' :: ']' :: rest =>
    if inside.isEmpty then none
    else return (← fieldName? (piece.between place stop), stop + 2, rest)
  | _ => none

/-- A piece from after its opening bracket on, given what it says of the origin. -/
def taskPart (piece : Piece) (origin : Option String) (place : Nat) (cs : List Char) :
    Option Wish := do
  let isNameChar := fun c => c != ']' && c != '\x7b'
  let name := cs.takeWhile isNameChar
  let stop := place + bytes name
  match cs.dropWhile isNameChar with
  | ']' :: rest =>
    let _ ← piece.levelPart (stop + 1) rest
    return .idle
  | '\x7b' :: rest =>
    let (field, place, rest) ← piece.fieldPart (stop + 1) rest
    let rank ← piece.levelPart place rest
    match field with
    | some field => return if name.isEmpty then .rule ⟨origin, some field, rank⟩ else .idle
    | none => return .idle
  | _ => none

/-- A character with which a level or the name of an origin may start. -/
def isStart (c : Char) : Bool :=
  c == '-' || c == ':' || c == '_' || Text.isAlphanumeric c

/-- What a piece asks for, if it can be read. -/
def wish? (piece : Piece) : Option Wish :=
  let cs := Text.dropBlankEnd (Text.dropBlank piece.written)
  let isNameChar := fun c => c != '=' && c != '['
  let stop := bytes (cs.takeWhile isNameChar)
  let name := String.ofList (piece.between 0 stop)
  match cs, cs.dropWhile isNameChar with
  | '[' :: rest, _ => piece.taskPart none 1 rest
  | c :: _, [] =>
    if isStart c then
      match rank? piece.written with
      | some rank => some (.rule ⟨none, none, rank⟩)
      | none => some (.rule ⟨some (String.ofList piece.written), none, everything⟩)
    else none
  | c :: _, '[' :: rest => if isStart c then piece.taskPart (some name) (stop + 1) rest else none
  | c :: _, rest =>
    if isStart c then (piece.levelPart stop rest).map fun rank => .rule ⟨some name, none, rank⟩
    else none
  | [], _ => none

end Piece

/-! ### Directives -/

/-- The filter in force when nothing else was asked for. -/
def default : LogFilter := upTo .warn

/-- The rule among the things asked for. -/
def Wish.rule? : Wish → Option LogRule
  | rule r => some r
  | idle => none

/-- The filter that a directive asks for. -/
def ofDirective (directive : String) : LogFilter :=
  let pieces := (directive.toList.splitOn ',').filter fun cs => !cs.isEmpty
  match pieces.mapM fun cs => (Piece.mk cs).wish? with
  | none => default
  | some [] => upTo .error
  | some wishes => ofRules (wishes.filterMap Wish.rule?)

end ZeroTrust.LogFilter
