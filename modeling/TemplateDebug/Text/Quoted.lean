import TemplateDebug.Text.Invisible
/-!
# Quoted text

Text between double quotes, as diagnostics show it: a double quote and a backslash are escaped, and a character that
cannot be seen is written by its code point. A single quote stands for itself.
-/

namespace TemplateDebug.Text

/-- A number in lower-case hexadecimal, without leading zeros. -/
def hex (n : Nat) : String := String.ofList (Nat.toDigits 16 n)

/-- What stands for a character between the quotes. -/
def escapeChar (c : Char) : String :=
  if c = '\t' then "\\t"
  else if c = '\r' then "\\r"
  else if c = '\n' then "\\n"
  else if c = Char.ofNat 0 then "\\0"
  else if c = '\\' then "\\\\"
  else if c = '"' then "\\\""
  else if isInvisible c then "\\u\x7b" ++ hex c.toNat ++ "\x7d"
  else c.toString

/-- Text in quotes. -/
def quote (s : String) : String := "\"" ++ String.join (s.toList.map escapeChar) ++ "\""

end TemplateDebug.Text
