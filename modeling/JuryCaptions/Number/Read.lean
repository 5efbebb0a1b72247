import JuryCaptions.Number.Decimal
import JuryCaptions.Text.Quote
/-!
Reading numbers from text. `Decimal.ofRatio` rounds a positive ratio to the
nearest double, ties to even, with gradual underflow; texts are taken apart
into such a ratio. Underscores may stand between digits; `inf`, `infinity` and
`nan` are read in any case. Too large is infinite and out of range.
-/

namespace JuryCaptions
namespace Decimal

def ofFields (neg : Bool) (biased fraction : Nat) : Float :=
  Float.ofBits (UInt64.ofNat ((if neg then 9223372036854775808 else 0) + biased * 4503599627370496 + fraction))

/-- Divides with the quotient rounded to nearest, a tie going to an even quotient. -/
def divRoundEven (num den : Nat) : Nat :=
  let q := num / den
  let r := num % den
  if 2 * r < den then q
  else if 2 * r > den then q + 1
  else if q % 2 = 0 then q else q + 1

/-- The double nearest to `num / den · 2^shift` for positive `num` and `den`. -/
def ofRatio (num den : Nat) (shift : Int) : Float :=
  -- an exponent `e` with `2^52 ≤ num / den · 2^(shift - e) < 2^54`
  let e0 : Int := (num.log2 : Int) - den.log2 - 53 + shift
  let e := max e0 (-1074)
  -- q = num / den · 2^(shift - e), rounded
  let k := shift - e
  let q := if 0 ≤ k then divRoundEven (num * Nat.pow 2 k.toNat) den
    else divRoundEven num (den * Nat.pow 2 (-k).toNat)
  -- the estimate may leave one bit too many
  let (q, e) := if q ≥ 9007199254740992 then
      let k := shift - (e + 1)
      let q' := if 0 ≤ k then divRoundEven (num * Nat.pow 2 k.toNat) den
        else divRoundEven num (den * Nat.pow 2 (-k).toNat)
      (q', e + 1)
    else (q, e)
  let (q, e) := if q ≥ 9007199254740992 then (q / 2, e + 1) else (q, e)
  if e > 971 then ofFields false 2047 0
  else if q < 4503599627370496 then ofFields false 0 q
  else ofFields false (e + 1075).toNat (q - 4503599627370496)

end Decimal

namespace NumberText

inductive ReadError where
  | malformed
  | range
  deriving Repr, BEq, DecidableEq

def ReadError.describe : ReadError → String
  | .malformed => "invalid syntax"
  | .range => "value out of range"

def ReadError.message (e : ReadError) (reader text : String) : String :=
  "strconv." ++ reader ++ ": parsing " ++ Quote.quoted text ++ ": " ++ e.describe

def hexValue (c : Char) : Option Nat :=
  if '0' ≤ c ∧ c ≤ '9' then some (c.toNat - '0'.toNat)
  else if 'a' ≤ c ∧ c ≤ 'f' then some (c.toNat - 'a'.toNat + 10)
  else if 'A' ≤ c ∧ c ≤ 'F' then some (c.toNat - 'A'.toNat + 10)
  else none

/-- Whether underscores in a number stand only between digits (or right after a
base prefix). -/
def underscoresOk (cs : List Char) : Bool :=
  let cs := match cs with
    | '+' :: r => r
    | '-' :: r => r
    | r => r
  let (start, rest, hex) := match cs with
    | '0' :: b :: r =>
      if b.toLower = 'b' ∨ b.toLower = 'o' ∨ b.toLower = 'x' then ('0', r, b.toLower == 'x')
      else ('^', cs, false)
    | _ => ('^', cs, false)
  let last := rest.foldl (fun (saw : Option Char) c =>
    match saw with
    | none => none
    | some s =>
      if c.isDigit || (hex && (hexValue c).isSome) then some '0'
      else if c = '_' then (if s = '0' then some '_' else none)
      else if s = '_' then none
      else some '!') (some start)
  match last with
  | some s => s ≠ '_'
  | none => false

/-- The length of the longest common prefix of `cs` and `word`, ignoring ASCII case. -/
def commonPrefixIgnoreCase : List Char → List Char → Nat
  | c :: cs, w :: ws => if c.toLower = w then 1 + commonPrefixIgnoreCase cs ws else 0
  | _, _ => 0

def special (cs : List Char) : Option Float :=
  let inf (neg : Bool) (rest : List Char) : Option Float :=
    let n := commonPrefixIgnoreCase rest "infinity".toList
    let n := if 3 < n ∧ n < 8 then 3 else n
    if (n = 3 ∨ n = 8) ∧ rest.length = n then
      some (if neg then -(1.0 / 0.0) else 1.0 / 0.0)
    else none
  match cs with
  | '+' :: r => inf false r
  | '-' :: r => inf true r
  | 'n' :: _ | 'N' :: _ =>
    if commonPrefixIgnoreCase cs "nan".toList = 3 ∧ cs.length = 3 then some (0.0 / 0.0) else none
  | _ => inf false cs

/-- A number taken apart: sign, the digits as a whole number, how many of them
stand after the point, and the written exponent. -/
structure Parts where
  neg : Bool
  mant : Nat
  after : Nat
  exp : Int

/-- Reads digits of the given base, skipping underscores; returns the value, the
count of digits read and the rest. -/
def digitsOf (base : Nat) : List Char → Nat → Nat → Nat × Nat × List Char
  | [], acc, n => (acc, n, [])
  | c :: cs, acc, n =>
    if c = '_' then digitsOf base cs acc n
    else match hexValue c with
      | some d => if d < base then digitsOf base cs (acc * base + d) (n + 1) else (acc, n, c :: cs)
      | none => (acc, n, c :: cs)

/-- The sign at the front of a number, whether it is a minus, and the text after it. -/
def takeSign : List Char → Bool × List Char
  | '+' :: r => (false, r)
  | '-' :: r => (true, r)
  | r => (false, r)

/-- Whether the digits of a number are hexadecimal, marked by `0x` or `0X` in
front, and the text after the mark. -/
def takeHex : List Char → Bool × List Char
  | '0' :: x :: r => if x = 'x' ∨ x = 'X' then (true, r) else (false, '0' :: x :: r)
  | body => (false, body)

def exponentOf (cs : List Char) : Option Int :=
  let (neg, cs) := takeSign cs
  let (v, n, rest) := digitsOf 10 cs 0 0
  if n = 0 ∨ rest ≠ [] then none else some (if neg then -(v : Int) else v)

/-- Reads the digits after a point, carrying on from the value `whole` before
it: the value of all digits, how many stood after the point, and the rest. -/
def pointDigits (base whole : Nat) : List Char → Nat × Nat × List Char
  | '.' :: r => digitsOf base r whole 0
  | rest => (whole, 0, rest)

/-- The exponent after the digits: zero when nothing follows (decimal only), or
the signed exponent after `e` (`p` for hexadecimal) in either case. -/
def exponentAfter (hex : Bool) : List Char → Option Int
  | [] => if hex then none else some 0
  | c :: r => if c.toLower = (if hex then 'p' else 'e') then exponentOf r else none

def parts (cs : List Char) : Option (Parts × Bool) :=
  let (neg, body) := takeSign cs
  let (hex, body) := takeHex body
  let base := if hex then 16 else 10
  let (whole, n1, rest) := digitsOf base body 0 0
  let (mant, n2, rest) := pointDigits base whole rest
  if n1 + n2 = 0 then none
  else (exponentAfter hex rest).map fun x => (⟨neg, mant, n2, x⟩, hex)

/-- The double nearest to a decimal `mant · 10^exp`, and whether it overflowed. -/
def ofDecimal (mant : Nat) (exp : Int) : Float × Bool :=
  if mant = 0 then (0.0, false)
  else
    let size : Int := Decimal.digitCount mant
    if size + exp > 320 then (1.0 / 0.0, true)
    else if size + exp < -350 then (0.0, false)
    else
      let f := if 0 ≤ exp then Decimal.ofRatio (mant * Nat.pow 10 exp.toNat) 1 0
        else Decimal.ofRatio mant (Nat.pow 10 (-exp).toNat) 0
      (f, f.isInf)

/-- The double nearest to `mant · 2^exp`, and whether it overflowed. -/
def ofBinary (mant : Nat) (exp : Int) : Float × Bool :=
  if mant = 0 then (0.0, false)
  else
    let size : Int := mant.log2
    if size + exp > 1100 then (1.0 / 0.0, true)
    else if size + exp < -1200 then (0.0, false)
    else
      let f := Decimal.ofRatio mant 1 exp
      (f, f.isInf)

/-- Reads a floating-point number. An out-of-range text still gives its value,
a signed infinity, beside the error. -/
def readFloat (s : String) : Float × Option ReadError :=
  let cs := s.toList
  match special cs with
  | some f => (f, none)
  | none =>
    if cs.contains '_' ∧ ¬ underscoresOk cs then (0.0, some .malformed)
    else match parts cs with
      | none => (0.0, some .malformed)
      | some (p, hex) =>
        let (f, overflowed) := if hex then ofBinary p.mant (p.exp - 4 * p.after)
          else ofDecimal p.mant (p.exp - p.after)
        let f := if p.neg then -f else f
        (f, if overflowed then some .range else none)

def decimalValue (cs : List Char) : Nat :=
  cs.foldl (fun acc c => acc * 10 + (c.toNat - '0'.toNat)) 0

/-- Reads a whole decimal number with an optional minus sign, as a JSON integer is spelled. -/
def readInt (s : String) : Option Int :=
  match s.toList with
  | '-' :: r => if r ≠ [] ∧ r.all Char.isDigit then some (-(decimalValue r : Int)) else none
  | r => if r ≠ [] ∧ r.all Char.isDigit then some (decimalValue r) else none

/-- Reads decimal digits: a non-digit is malformed and a value reaching `2^64`
out of range, whichever comes first. -/
def scanDecimal : List Char → Nat → Except ReadError Nat
  | [], n => .ok n
  | c :: cs, n =>
    if !c.isDigit then .error .malformed
    else
      let m := n * 10 + (c.toNat - '0'.toNat)
      if m ≥ 18446744073709551616 then .error .range else scanDecimal cs m

/-- Reads a whole decimal number with an optional sign that fits in 64 bits;
passing `2^64` before a stray character is out of range. -/
def readWhole (s : String) : Except ReadError Int :=
  let (neg, ds) := takeSign s.toList
  if ds = [] then .error .malformed
  else match scanDecimal ds 0 with
    | .error e => .error e
    | .ok v =>
      let n : Int := if neg then -(v : Int) else v
      if -(9223372036854775808 : Int) ≤ n ∧ n < 9223372036854775808 then .ok n else .error .range

end NumberText
end JuryCaptions
