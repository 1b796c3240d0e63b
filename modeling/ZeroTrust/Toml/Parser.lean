/-
  `Toml.Parser` — reading a TOML document.

  A document is a list of statements, one per line: headers, and keys with values.
  Arrays and multi-line strings may run over several lines; inline tables may not.
  Comments and strings hold no control characters beside the tab and, in
  multi-line strings, line ends.

  As in reading JSON, the functions are total by a bound on the number of calls
  that never cuts a text short. Values may lie inside one another up to a limit.
-/
import ZeroTrust.Toml.Scalar

namespace ZeroTrust.Toml.Parser

/-! ### Blanks, comments and line ends -/

/-- A space or a tab. -/
def isSpace (c : Char) : Bool :=
  c == ' ' || c == '\t'

/-- The characters after spaces and tabs. -/
def skipSpace (cs : List Char) : List Char :=
  cs.dropWhile isSpace

/-- A character that may stand in a comment, and between quotes where nothing else forbids it. -/
def isPlain (c : Char) : Bool :=
  c == '\t' || (0x20 ≤ c.toNat && c != '\x7f')

/-- What follows a line end. -/
def newline? : List Char → Option (List Char)
  | '\n' :: rest => some rest
  | '\r' :: '\n' :: rest => some rest
  | _ => none

/-- The characters after a comment, if there is one. -/
def skipComment : List Char → List Char
  | '#' :: rest => rest.dropWhile isPlain
  | cs => cs

/-- What follows the rest of a line that holds nothing but spaces and a comment. -/
def lineEnd? (cs : List Char) : Option (List Char) :=
  match skipComment (skipSpace cs) with
  | [] => some []
  | cs => newline? cs

/-- The characters after spaces, comments and line ends. -/
def skipLines : Nat → List Char → List Char
  | 0, cs => cs
  | bound + 1, cs =>
    let cs := skipSpace cs
    match newline? (skipComment cs) with
    | some rest => skipLines bound rest
    | none => cs

/-! ### Strings -/

/-- The character that a number of hexadecimal digits names, and what follows. -/
def codePoint? (count : Nat) (cs : List Char) : Option (Char × List Char) := do
  let digits := cs.take count
  guard (digits.length == count)
  let n ← Text.hexDigits? digits
  if n < 0xD800 ∨ (0xE000 ≤ n ∧ n < 0x110000) then some (Char.ofNat n, cs.drop count) else none

/-- The character that an escape names after its backslash, and what follows. -/
def escape? : List Char → Option (Char × List Char)
  | '"' :: rest => some ('"', rest)
  | '\\' :: rest => some ('\\', rest)
  | 'b' :: rest => some ('\x08', rest)
  | 'f' :: rest => some ('\x0c', rest)
  | 'n' :: rest => some ('\n', rest)
  | 'r' :: rest => some ('\r', rest)
  | 't' :: rest => some ('\t', rest)
  | 'u' :: rest => codePoint? 4 rest
  | 'U' :: rest => codePoint? 8 rest
  | _ => none

/-- The rest of a string between double quotes, and what follows; `found` holds, last first, the
characters before. -/
def basic : Nat → List Char → List Char → Option (String × List Char)
  | 0, _, _ => none
  | bound + 1, found, cs =>
    match cs with
    | '"' :: rest => some (String.ofList found.reverse, rest)
    | '\\' :: rest => do
      let (c, rest) ← escape? rest
      basic bound (c :: found) rest
    | c :: rest => if isPlain c then basic bound (c :: found) rest else none
    | [] => none

/-- A string between single quotes after the first, and what follows. -/
def literal (cs : List Char) : Option (String × List Char) :=
  let inside := cs.takeWhile fun c => isPlain c && c != '\''
  match cs.drop inside.length with
  | '\'' :: rest => some (String.ofList inside, rest)
  | _ => none

/-- The end of a multi-line string: up to two more quotes belong to the string. -/
def closing? (quote : Char) (found : List Char) : List Char → Option (String × List Char)
  | a :: b :: c :: rest =>
    if a = quote ∧ b = quote ∧ c = quote then
      let extra := (rest.take 2).takeWhile (· == quote)
      some (String.ofList (found.reverse ++ extra), rest.drop extra.length)
    else none
  | _ => none

/-- What follows a backslash at the end of a line, with all blanks and line ends after it. -/
def continuation? (bound : Nat) (cs : List Char) : Option (List Char) :=
  (newline? (skipSpace cs)).map (skipBlankLines bound)
where
  /-- The characters after spaces and line ends. -/
  skipBlankLines : Nat → List Char → List Char
    | 0, cs => cs
    | bound + 1, cs =>
      match newline? (skipSpace cs) with
      | some rest => skipBlankLines bound rest
      | none => skipSpace cs

/-- The rest of a multi-line string between double quotes, and what follows. -/
def multiBasic : Nat → List Char → List Char → Option (String × List Char)
  | 0, _, _ => none
  | bound + 1, found, cs =>
    match closing? '"' found cs with
    | some result => some result
    | none =>
      match newline? cs with
      | some rest => multiBasic bound ('\n' :: found) rest
      | none =>
        match cs with
        | '\\' :: rest =>
          match continuation? bound rest with
          | some rest => multiBasic bound found rest
          | none => do
            let (c, rest) ← escape? rest
            multiBasic bound (c :: found) rest
        | c :: rest => if isPlain c then multiBasic bound (c :: found) rest else none
        | [] => none

/-- The rest of a multi-line string between single quotes, and what follows. -/
def multiLiteral : Nat → List Char → List Char → Option (String × List Char)
  | 0, _, _ => none
  | bound + 1, found, cs =>
    match closing? '\'' found cs with
    | some result => some result
    | none =>
      match newline? cs with
      | some rest => multiLiteral bound ('\n' :: found) rest
      | none =>
        match cs with
        | c :: rest => if isPlain c then multiLiteral bound (c :: found) rest else none
        | [] => none

/-- A multi-line string without the line end right after its opening quotes. -/
def afterOpening (cs : List Char) : List Char :=
  (newline? cs).getD cs

/-- A string of any form, and what follows. -/
def string? (bound : Nat) : List Char → Option (String × List Char)
  | '"' :: '"' :: '"' :: rest => multiBasic bound [] (afterOpening rest)
  | '\'' :: '\'' :: '\'' :: rest => multiLiteral bound [] (afterOpening rest)
  | '"' :: rest => basic bound [] rest
  | '\'' :: rest => literal rest
  | _ => none

/-! ### Keys -/

/-- A character of a key without quotes. -/
def isKeyChar (c : Char) : Bool :=
  c.isAlphanum || c == '_' || c == '-'

/-- One part of a key, and what follows. -/
def keyPart? (bound : Nat) : List Char → Option (String × List Char)
  | '"' :: rest => basic bound [] rest
  | '\'' :: rest => literal rest
  | cs =>
    let part := cs.takeWhile isKeyChar
    if part.isEmpty then none else some (String.ofList part, cs.drop part.length)

/-- How many parts a key may have, and how many values may lie inside one another, less one. -/
def depthLimit : Nat := 80

/-- The parts of a dotted key, and what follows. -/
def keyParts? : Nat → List Char → Option (List String × List Char)
  | 0, _ => none
  | bound + 1, cs => do
    let (part, rest) ← keyPart? bound (skipSpace cs)
    match skipSpace rest with
    | '.' :: rest => (keyParts? bound rest).map fun (parts, rest) => (part :: parts, rest)
    | rest => some ([part], rest)

/-- A key: the parts before its last, its last, and what follows. -/
def key? (bound : Nat) (cs : List Char) : Option (List String × String × List Char) := do
  let (parts, rest) ← keyParts? bound cs
  guard (parts.length < depthLimit)
  let last ← parts.getLast?
  return (parts.dropLast, last, rest)

/-! ### Values -/

/-- A character of a number, a date or a time. -/
def isScalarChar (c : Char) : Bool :=
  c.isAlphanum || c == '_' || c == '+' || c == '-' || c == '.' || c == ':'

/-- A scalar that is no string, and what follows. A space may join a date and a time. -/
def scalarAt? (cs : List Char) : Option (Value × List Char) :=
  let token := cs.takeWhile isScalarChar
  let rest := cs.drop token.length
  let time := (rest.drop 1).takeWhile isScalarChar
  -- A date alone ends at the space; a time behind the space belongs to it.
  if isDateText token && rest.head? == some ' ' && (time.head?.any Char.isDigit) then
    (scalar? (token ++ ' ' :: time)).map fun v => (v, rest.drop (time.length + 1))
  else (scalar? token).map fun v => (v, rest)

mutual

/-- A value, and what follows. -/
def value : Nat → Nat → List Char → Option (Value × List Char)
  | 0, _, _ => none
  | bound + 1, depth, cs =>
    match cs with
    | '"' :: _ => (string? bound cs).map fun (s, rest) => (.string s, rest)
    | '\'' :: _ => (string? bound cs).map fun (s, rest) => (.string s, rest)
    | '[' :: rest =>
      if depth + 1 < depthLimit then
        (items bound (depth + 1) rest).map fun (vs, rest) => (.array vs, rest)
      else none
    | '{' :: rest =>
      if depth + 1 < depthLimit then
        match skipSpace rest with
        | '}' :: rest => some (.inline [], rest)
        | rest => (pairs bound (depth + 1) [] rest).map fun (es, rest) => (.inline es, rest)
      else none
    | cs => scalarAt? cs

/-- The items of an array up to its end, and what follows. -/
def items : Nat → Nat → List Char → Option (List Value × List Char)
  | 0, _, _ => none
  | bound + 1, depth, cs =>
    match skipLines bound cs with
    | ']' :: rest => some ([], rest)
    | cs => do
      let (v, rest) ← value bound depth cs
      match skipLines bound rest with
      | ',' :: rest => (items bound depth rest).map fun (vs, rest) => (v :: vs, rest)
      | ']' :: rest => some ([v], rest)
      | _ => none

/-- The pairs of an inline table up to its end, added to some entries, and what follows. -/
def pairs : Nat → Nat → Entries → List Char → Option (Entries × List Char)
  | 0, _, _, _ => none
  | bound + 1, depth, entries, cs => do
    let (path, key, rest) ← key? bound cs
    match rest with
    | '=' :: rest => do
      let (v, rest) ← value bound depth (skipSpace rest)
      let entries ← entries.addDotted path key v
      match skipSpace rest with
      | ',' :: rest => pairs bound depth entries rest
      | '}' :: rest => some (entries, rest)
      | _ => none
    | _ => none

end

/-! ### Statements -/

/-- What has been read of a document. -/
structure State where
  /-- The entries of the document. -/
  root : Entries
  /-- The path to the table that the last header opened. -/
  path : List String

/-- A header of a table after its bracket, and what follows the line. -/
def header? (bound : Nat) (s : State) (cs : List Char) : Option (State × List Char) := do
  let (path, key, rest) ← key? bound cs
  match rest with
  | ']' :: rest => do
    let rest ← lineEnd? rest
    let root ← s.root.changeAt .passed (fun _ => Entries.define key) false path
    return (⟨root, path ++ [key]⟩, rest)
  | _ => none

/-- A header of an array of tables after its brackets, and what follows the line. -/
def arrayHeader? (bound : Nat) (s : State) (cs : List Char) : Option (State × List Char) := do
  let (path, key, rest) ← key? bound cs
  match rest with
  | ']' :: ']' :: rest => do
    let rest ← lineEnd? rest
    let root ← s.root.changeAt .passed (fun _ => Entries.push key) false path
    return (⟨root, path ++ [key]⟩, rest)
  | _ => none

/-- A key with its value, and what follows the line. -/
def keyValue? (bound : Nat) (s : State) (cs : List Char) : Option (State × List Char) := do
  let (path, key, rest) ← key? bound cs
  match rest with
  | '=' :: rest => do
    let (v, rest) ← value bound 0 (skipSpace rest)
    let rest ← lineEnd? rest
    let root ← s.root.changeAt .passed (fun _ => Entries.addDotted path key v) false s.path
    return (⟨root, s.path⟩, rest)
  | _ => none

/-- The entries of a document after all statements. -/
def statements : Nat → State → List Char → Option Entries
  | 0, _, _ => none
  | bound + 1, s, cs =>
    match skipSpace cs with
    | [] => some s.root
    | cs =>
      match lineEnd? cs with
      | some rest => statements bound s rest
      | none => do
        let (s, rest) ←
          match cs with
          | '[' :: '[' :: rest => arrayHeader? bound s rest
          | '[' :: rest => header? bound s rest
          | cs => keyValue? bound s cs
        statements bound s rest

end Parser

/-- The entries of the document that a text writes. A byte-order mark at its front does not
count. -/
def parse? (text : String) : Option Entries :=
  let cs :=
    match text.toList with
    | '\uFEFF' :: cs => cs
    | cs => cs
  Parser.statements (2 * cs.length + 2) ⟨[], []⟩ cs

end ZeroTrust.Toml
