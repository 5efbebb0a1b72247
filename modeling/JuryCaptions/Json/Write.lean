import JuryCaptions.Json.Basic
import JuryCaptions.Text.Quote
/-!
Writing JSON text without blanks. Quotes, backslashes and controls are escaped,
as are U+2028 and U+2029, and with `html` also `<`, `>` and `&`. The indented
layout puts each item on its own line, one step deeper; empty arrays and
objects stay `[]` and `{}`.
-/

namespace JuryCaptions
namespace Json

def escapeChar (html : Bool) (c : Char) : String :=
  if c = '"' then "\\\""
  else if c = '\\' then "\\\\"
  else if c = '\n' then "\\n"
  else if c = '\r' then "\\r"
  else if c = '\t' then "\\t"
  else if c = '\x08' then "\\b"
  else if c = '\x0c' then "\\f"
  else if c.toNat < 0x20 then "\\u00" ++ Quote.hexDigits c.toNat 2
  else if html && (c = '<' || c = '>' || c = '&') then "\\u00" ++ Quote.hexDigits c.toNat 2
  else if c.toNat = 0x2028 || c.toNat = 0x2029 then "\\u" ++ Quote.hexDigits c.toNat 4
  else String.singleton c

def quote (html : Bool) (s : String) : String :=
  "\"" ++ String.join (s.toList.map (escapeChar html)) ++ "\""

mutual

def render (html : Bool) : Json → String
  | .null => "null"
  | .bool true => "true"
  | .bool false => "false"
  | .num n => n
  | .str s => quote html s
  | .arr xs => "[" ++ renderItems html xs ++ "]"
  | .obj ms => "\x7b" ++ renderMembers html ms ++ "\x7d"

def renderItems (html : Bool) : List Json → String
  | [] => ""
  | [x] => render html x
  | x :: xs => render html x ++ "," ++ renderItems html xs

def renderMembers (html : Bool) : List (String × Json) → String
  | [] => ""
  | [(k, v)] => quote html k ++ ":" ++ render html v
  | (k, v) :: ms => quote html k ++ ":" ++ render html v ++ "," ++ renderMembers html ms

end

mutual

/-- The indented text of a document at the indentation `depth`. -/
def renderIndented (step depth : String) : Json → String
  | .arr [] => "[]"
  | .obj [] => "\x7b\x7d"
  | .arr (x :: xs) => "[\n" ++ indentedItems step (depth ++ step) (x :: xs) ++ "\n" ++ depth ++ "]"
  | .obj (m :: ms) => "\x7b\n" ++ indentedMembers step (depth ++ step) (m :: ms) ++ "\n" ++ depth ++ "\x7d"
  | j => render true j

def indentedItems (step depth : String) : List Json → String
  | [] => ""
  | [x] => depth ++ renderIndented step depth x
  | x :: xs => depth ++ renderIndented step depth x ++ ",\n" ++ indentedItems step depth xs

def indentedMembers (step depth : String) : List (String × Json) → String
  | [] => ""
  | [(k, v)] => depth ++ quote true k ++ ": " ++ renderIndented step depth v
  | (k, v) :: ms => depth ++ quote true k ++ ": " ++ renderIndented step depth v ++ ",\n" ++
    indentedMembers step depth ms

end

/-- The text of a document laid out over lines, each level indented by `step`. -/
def indented (step : String) (j : Json) : String := renderIndented step "" j

/-- The text of a document as other programs receive it: HTML characters escaped. -/
def compact (j : Json) : String := render true j

/-- Writes a document that was read from text again, without blanks; numbers
keep their spelling. -/
def recompact (j : Json) : String := compact j

/-- A double as a document; not-a-number and the infinities cannot be written. -/
def floatDoc (x : Float) : Except String Json :=
  if x.isNaN || x.isInf then .error ("json: unsupported value: " ++ FloatText.general x)
  else .ok (.float x)

end Json
end JuryCaptions
