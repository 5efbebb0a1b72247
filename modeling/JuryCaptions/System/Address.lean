/-!
Network addresses `host:port`, split at the last colon, a host with colons
bracketed. A port is a decimal from 0 to 65535, empty for 0, or a service name,
none of which is known.
-/

namespace JuryCaptions
namespace Address

def malformed (addr why : String) : String := "address " ++ addr ++ ": " ++ why

def split (addr : String) : Except String (String × String) :=
  let cs := addr.toList
  let missingPort := malformed addr "missing port in address"
  let tooManyColons := malformed addr "too many colons in address"
  match cs.reverse.findIdx? (· == ':') with
  | none => .error missingPort
  | some fromEnd =>
    let i := cs.length - 1 - fromEnd
    let portPart := String.ofList (cs.drop (i + 1))
    let checked (host : String) (j k : Nat) : Except String (String × String) :=
      if (cs.drop j).contains '[' then .error (malformed addr "unexpected '[' in address")
      else if (cs.drop k).contains ']' then .error (malformed addr "unexpected ']' in address")
      else .ok (host, portPart)
    if cs.head? == some '[' then
      match cs.findIdx? (· == ']') with
      | none => .error (malformed addr "missing ']' in address")
      | some close =>
        if close + 1 == cs.length then .error missingPort
        else if close + 1 == i then checked (String.ofList ((cs.take close).drop 1)) 1 (close + 1)
        else if cs[close + 1]? == some ':' then .error tooManyColons
        else .error missingPort
    else
      let host := cs.take i
      if host.contains ':' then .error tooManyColons else checked (String.ofList host) 0 0

/-- Reads the decimal digits of a port; `none` for a name to look up. Large
numbers stop growing past `2^30`. -/
def portDigits : List Char → Nat → Option Nat
  | [], n => some n
  | c :: cs, n =>
    if c.isDigit then
      if n ≥ 1073741824 then some (4294967296 - 1)
      else portDigits cs (n * 10 + (c.toNat - '0'.toNat))
    else none

def port (text : String) : Except String Nat :=
  let bad : Except String Nat := .error (malformed text "invalid port")
  match text.toList with
  | [] => .ok 0
  | sign :: rest =>
    let (neg, digits) :=
      if sign == '-' then (true, rest) else if sign == '+' then (false, rest) else (false, sign :: rest)
    match portDigits digits 0 with
    | none => .error ("lookup tcp/" ++ text ++ ": unknown port")
    | some n => if neg && n > 0 then bad else if n > 65535 then bad else .ok n

def resolve (addr : String) : Except String (String × Nat) := do
  let (host, p) ← split addr
  let n ← port p
  pure (host, n)

def join (host : String) (port : Nat) : String :=
  (if host.contains ':' then "[" ++ host ++ "]" else host) ++ ":" ++ toString port

end Address
end JuryCaptions
