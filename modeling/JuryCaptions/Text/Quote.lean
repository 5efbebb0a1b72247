import JuryCaptions.Text.Printable
/-!
Quoted text in messages: printable characters as they are, the usual controls
with one-letter escapes, others below `U+0080` as `\x`, the rest as `\u` or `\U`.
-/

namespace JuryCaptions
namespace Quote

/-- Hex digits of `n`, lower case, padded to `width`. -/
def hexDigits (n width : Nat) : String :=
  let ds := Nat.toDigits 16 n
  String.ofList (List.replicate (width - ds.length) '0' ++ ds)

def escapeChar (c : Char) : String :=
  if c = '"' then "\\\""
  else if c = '\\' then "\\\\"
  else if Printable.isPrintable c then String.singleton c
  else if c = '\x07' then "\\a"
  else if c = '\x08' then "\\b"
  else if c = '\x0c' then "\\f"
  else if c = '\n' then "\\n"
  else if c = '\r' then "\\r"
  else if c = '\t' then "\\t"
  else if c = '\x0b' then "\\v"
  else if c.toNat < 0x80 then "\\x" ++ hexDigits c.toNat 2
  else if c.toNat < 0x10000 then "\\u" ++ hexDigits c.toNat 4
  else "\\U" ++ hexDigits c.toNat 8

def quoted (s : String) : String :=
  "\"" ++ String.join (s.toList.map escapeChar) ++ "\""

/-- A character between single quotes, as syntax errors name it: a single quote
is escaped, a double quote is not, anything else as inside double quotes. -/
def quotedChar (c : Char) : String :=
  if c = '\'' then "'\\''"
  else if c = '"' then "'\"'"
  else "'" ++ escapeChar c ++ "'"

end Quote
end JuryCaptions
