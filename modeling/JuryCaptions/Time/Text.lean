import JuryCaptions.Time.Duration
/-!
Durations written as text: a sign and terms such as `1h30m`, `1.5s`, `.5us`,
units `ns us ms s m h`; a lone `0` needs none. Whole parts must not pass
`2^63`, and a fraction's share is rounded toward zero.
-/

namespace JuryCaptions
namespace DurationText

def unitLength : String → Option Nat
  | "ns" => some 1
  | "us" | "µs" | "μs" => some 1000
  | "ms" => some 1000000
  | "s" => some 1000000000
  | "m" => some 60000000000
  | "h" => some 3600000000000
  | _ => none

def isNumeric (c : Char) : Bool := c == '.' || c.isDigit

/-- The value of leading digits, if it does not pass `2^63`. -/
def leadingInt (ds : List Char) : Option Nat :=
  let n := ds.foldl (fun acc c => acc * 10 + (c.toNat - '0'.toNat)) 0
  if n ≤ 9223372036854775808 then some n else none

/-- The value of fraction digits and ten to the count of digits taken: digits
are taken while the value stays below `2^63`, later ones are ignored. -/
def leadingFraction (ds : List Char) : Nat × Float :=
  let (x, scale, _) := ds.foldl (fun (st : Nat × Float × Bool) c =>
    let (x, scale, overflowed) := st
    if overflowed then st
    else if x > (9223372036854775808 - 1) / 10 then (x, scale, true)
    else
      let y := x * 10 + (c.toNat - '0'.toNat)
      if y > 9223372036854775808 then (x, scale, true) else (y, scale * 10.0, false)) (0, 1.0, false)
  (x, scale)

/-- Reads the terms of a duration, adding them to `acc` nanoseconds. -/
def terms : Nat → List Char → Nat → Option Nat
  | 0, _, _ => none
  | _, [], acc => some acc
  | fuel + 1, cs@(c :: _), acc => do
    if !isNumeric c then none
    let whole := cs.takeWhile Char.isDigit
    let v ← leadingInt whole
    let cs := cs.drop whole.length
    let (f, scale, post, cs) := match cs with
      | '.' :: r =>
        let ds := r.takeWhile Char.isDigit
        let (f, scale) := leadingFraction ds
        (f, scale, !ds.isEmpty, r.drop ds.length)
      | _ => (0, 1.0, false, cs)
    if whole.isEmpty && !post then none
    let unit := cs.takeWhile (fun c => !isNumeric c)
    if unit.isEmpty then none
    let u ← unitLength (String.ofList unit)
    if v > 9223372036854775808 / u then none
    let v := v * u
    let v := if f > 0 then v + (Float.ofNat f * (Float.ofNat u / scale)).toUInt64.toNat else v
    if v > 9223372036854775808 then none
    let acc := acc + v
    if acc > 9223372036854775808 then none
    terms fuel (cs.drop unit.length) acc

def read (s : String) : Option Duration :=
  let cs := s.toList
  let (neg, cs) := match cs with
    | '-' :: r => (true, r)
    | '+' :: r => (false, r)
    | r => (false, r)
  if cs = ['0'] then some 0
  else if cs.isEmpty then none
  else do
    let d ← terms (cs.length + 1) cs 0
    if neg then some (-(d : Int))
    else if d > 9223372036854775808 - 1 then none
    else some d

end DurationText
end JuryCaptions
