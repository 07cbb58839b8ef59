import ElasticBuffer.Text.Visible

/-!
# Quoted text

A text is shown between double quotes. Quote and backslash are preceded by a backslash, and the common
control characters have a letter of their own. Of the other characters, those that can be told by their look
stand for themselves, and each of the rest is written by its number in base sixteen.
-/

namespace ElasticBuffer.Text

/-- How one character is written inside quotes. -/
def escape (c : Char) : String :=
  if c = '"' then "\\\""
  else if c = '\\' then "\\\\"
  else if c = '\n' then "\\n"
  else if c = '\t' then "\\t"
  else if c = '\r' then "\\r"
  else if c.toNat = 0 then "\\0"
  else if isVisible c.toNat then c.toString
  else "\\u\x7b" ++ String.ofList (Nat.toDigits 16 c.toNat) ++ "\x7d"

/-- A text between double quotes, each character escaped. -/
def quoted (s : String) : String :=
  "\"" ++ String.join (s.toList.map escape) ++ "\""

end ElasticBuffer.Text
