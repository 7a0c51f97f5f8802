import MiniJvm.Text.Hex
import MiniJvm.Text.Shapeless

/-!
Quoted text, as messages and log lines show it: double quotes around, the quote and the backslash
escaped, and a named or hexadecimal escape for every character that has no visible shape of its own.
-/

namespace MiniJvm.Quoted

def isPlain (c : Char) : Bool :=
  (0x20 ≤ c.toNat && c.toNat < 0x7f) || !Shapeless.test c

def escape (c : Char) : String :=
  if c = '"' then "\\\""
  else if c = '\\' then "\\\\"
  else if c = '\t' then "\\t"
  else if c = '\r' then "\\r"
  else if c = '\n' then "\\n"
  else if c.toNat = 0 then "\\0"
  else if isPlain c then String.singleton c
  else "\\u\x7b" ++ Hex.short c.toNat ++ "\x7d"

/-- The text between double quotes, every character escaped where it needs to be. -/
def quote (text : String) : String :=
  "\"" ++ String.join (text.toList.map escape) ++ "\""

end MiniJvm.Quoted
