/-
  `Text.Quoted` — a text between double quotes, for one line of a log.

  A quote and a backslash are written after a backslash. So are the characters
  with a short name: the tab, the line feed, the carriage return and the null
  character. Any other character that shows nothing of its own is written by its
  code point, in hexadecimal and between braces. All else stands for itself.
-/
import ZeroTrust.Text.Hex
import ZeroTrust.Text.Unprintable

namespace ZeroTrust.Text

/-- One character as it stands between quotes. -/
def quotedChar (c : Char) : String :=
  if c = '"' then "\\\""
  else if c = '\\' then "\\\\"
  else if c = '\t' then "\\t"
  else if c = '\n' then "\\n"
  else if c = '\r' then "\\r"
  else if c = '\x00' then "\\0"
  else if isUnprintable c then "\\u\x7b" ++ hex c.toNat ++ "\x7d"
  else String.singleton c

/-- A text between double quotes. -/
def quoted (s : String) : String :=
  "\"" ++ String.join (s.toList.map quotedChar) ++ "\""

end ZeroTrust.Text
