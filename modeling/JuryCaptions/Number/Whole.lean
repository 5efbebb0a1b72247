import JuryCaptions.Number.Read
/-!
Whole numbers and truth values in program texts. A whole number may carry a
sign, a base prefix (`0b`, `0o`, `0x`, a bare `0`) and underscores between
digits, and must fit in 64 bits. A truth value is one of `1 t T TRUE true True`
or `0 f F FALSE false False`.
-/

namespace JuryCaptions
namespace NumberText

/-- The value of a digit in the bases up to 36, letters in either case. -/
def digitValue (c : Char) : Option Nat :=
  if '0' ≤ c ∧ c ≤ '9' then some (c.toNat - '0'.toNat)
  else if 'a' ≤ c.toLower ∧ c.toLower ≤ 'z' then some (c.toLower.toNat - 'a'.toNat + 10)
  else none

def baseOf : List Char → Nat × List Char
  | '0' :: b :: d :: r =>
    if b.toLower = 'b' then (2, d :: r)
    else if b.toLower = 'o' then (8, d :: r)
    else if b.toLower = 'x' then (16, d :: r)
    else (8, b :: d :: r)
  | '0' :: r => (8, r)
  | r => (10, r)

/-- Reads the digits of a base as the standard unsigned reader does: a non-digit
is malformed and a value reaching `2^64` out of range, whichever comes first;
with `underscores`, an underscore is passed over. -/
def scanDigits (base : Nat) (underscores : Bool) : List Char → Nat → Except ReadError Nat
  | [], n => .ok n
  | c :: cs, n =>
    if underscores && c == '_' then scanDigits base underscores cs n
    else match digitValue c with
      | none => .error .malformed
      | some d =>
        if d ≥ base then .error .malformed
        else if n * base + d ≥ 18446744073709551616 then .error .range
        else scanDigits base underscores cs (n * base + d)

/-- Reads an unsigned whole number with its base prefix; it must be below `2^64`.
Underscores are checked only once every digit is read. -/
def readNatPrefixed (cs : List Char) : Except ReadError Nat :=
  if cs = [] then .error .malformed
  else
    let (base, digits) := baseOf cs
    match scanDigits base true digits 0 with
    | .error e => .error e
    | .ok n => if cs.contains '_' ∧ ¬ underscoresOk cs then .error .malformed else .ok n

/-- Reads a signed whole number with its base prefix, within 64 bits. -/
def readIntPrefixed (s : String) : Except ReadError Int :=
  let (neg, rest) := takeSign s.toList
  match readNatPrefixed rest with
  | .error e => .error e
  | .ok n =>
    if neg then (if n ≤ 9223372036854775808 then .ok (-(n : Int)) else .error .range)
    else if n < 9223372036854775808 then .ok n else .error .range

def readBool : String → Option Bool
  | "1" | "t" | "T" | "TRUE" | "true" | "True" => some true
  | "0" | "f" | "F" | "FALSE" | "false" | "False" => some false
  | _ => none

end NumberText
end JuryCaptions
