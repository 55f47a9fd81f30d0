/-
Quoting a text for a message: in double quotes, with a backslash in front of quotes and backslashes, short forms for
the usual controls, and the code point in hexadecimal for every other character that would not show as itself.
-/
import GlslInspect.Text.Basic
import GlslInspect.Text.Visible

namespace GlslInspect.Text

/-- a character as it stands inside quotes -/
def escaped (c : Char) : Text :=
  if c = '\x00' then "\\0"
  else if c = '\t' then "\\t"
  else if c = '\r' then "\\r"
  else if c = '\n' then "\\n"
  else if c = '"' then "\\\""
  else if c = '\\' then "\\\\"
  else if isVisible c then [c]
  else "\\u\x7b" ++ Nat.toDigits 16 c.toNat ++ "\x7d"

/-- a text in quotes -/
def quoted (t : Text) : Text := "\"" ++ t.flatMap escaped ++ "\""

end GlslInspect.Text
