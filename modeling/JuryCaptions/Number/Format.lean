import JuryCaptions.Number.Decimal
/-!
Text forms of doubles from their shortest digits. The general form is
positional for exponents from -4 to 5 (`1e+06`, `1e-07` otherwise); the
document form is positional from `1e-6` to `1e21` (`1e-7`, `1e+21`); the fixed
form is always positional.
-/

namespace JuryCaptions
namespace FloatText

/-- Positional notation of `0.ds × 10^point`, with no trailing zeros after the point. -/
def positional (d : Decimal.DigitString) : String :=
  let n := d.digits.length
  if d.point ≤ 0 then
    "0." ++ String.ofList (List.replicate (-d.point).toNat '0') ++ String.ofList d.digits
  else if n ≤ d.point.toNat then
    String.ofList d.digits ++ String.ofList (List.replicate (d.point.toNat - n) '0')
  else
    String.ofList (d.digits.take d.point.toNat) ++ "." ++ String.ofList (d.digits.drop d.point.toNat)

/-- Scientific notation `d.ddd` then `e`, the exponent's sign and at least
`width` of its digits. -/
def scientific (d : Decimal.DigitString) (width : Nat) : String :=
  let exp := d.point - 1
  let mant := match d.digits with
    | [] => "0"
    | [c] => String.singleton c
    | c :: rest => String.singleton c ++ "." ++ String.ofList rest
  let digits := Nat.toDigits 10 exp.natAbs
  let padded := List.replicate (width - digits.length) '0' ++ digits
  mant ++ "e" ++ (if exp < 0 then "-" else "+") ++ String.ofList padded

/-- The general form: shortest digits, positional for exponents `-4 ≤ x < 6`.
Not-a-number and the infinities are written `NaN`, `+Inf` and `-Inf`. -/
def general (x : Float) : String :=
  if x.isNaN then "NaN"
  else if x.isInf then (if x > 0 then "+Inf" else "-Inf")
  else
    let (neg, _, _) := Decimal.fields x
    let sign := if neg then "-" else ""
    if x == 0 then sign ++ "0"
    else
      let d := Decimal.shortestDigits x
      let exp := d.point - 1
      if exp < -4 ∨ exp ≥ 6 then sign ++ scientific d 2 else sign ++ positional d

/-- The fixed form: shortest digits in positional notation at every magnitude,
never with an exponent. Not-a-number and the infinities are written `NaN`,
`+Inf` and `-Inf`. -/
def fixed (x : Float) : String :=
  if x.isNaN then "NaN"
  else if x.isInf then (if x > 0 then "+Inf" else "-Inf")
  else
    let (neg, _, _) := Decimal.fields x
    let sign := if neg then "-" else ""
    if x == 0 then sign ++ "0" else sign ++ positional (Decimal.shortestDigits x)

/-- The document form of a finite double: positional for magnitudes from `1e-6`
below `1e21`, otherwise scientific with a one-digit negative exponent kept short. -/
def document (x : Float) : String :=
  let (neg, _, _) := Decimal.fields x
  let sign := if neg then "-" else ""
  if x == 0 then sign ++ "0"
  else
    let d := Decimal.shortestDigits x
    let a := x.abs
    if a < 1e-6 ∨ a ≥ 1e21 then
      let exp := d.point - 1
      sign ++ scientific d (if exp < 0 ∧ exp > -10 then 1 else 2)
    else sign ++ positional d

end FloatText
end JuryCaptions
