import JuryCaptions.Number.Decimal
/-!
Durations in whole nanoseconds. A duration from a double keeps its whole part,
toward zero; a double out of range or not a number gives the least duration,
`-2^63` nanoseconds, as the conversion instruction of 64-bit processors does.
-/

namespace JuryCaptions

abbrev Duration := Int

namespace Duration

def least : Duration := -(9223372036854775808)

def greatest : Duration := 9223372036854775808 - 1

/-- A whole number of nanoseconds held within the range of durations: past
either end it is that end. -/
def saturate (d : Int) : Duration := if d < least then least else if d > greatest then greatest else d

/-- A whole number taken modulo `2^64` into the range of durations, as 64-bit
arithmetic that overflows leaves it. -/
def wrap (d : Int) : Duration :=
  (d + 9223372036854775808) % 18446744073709551616 - 9223372036854775808

/-- The whole part of a double, toward zero, as a 64-bit whole number, or the
least one when it does not fit. -/
def truncFloat (x : Float) : Int :=
  if x.isNaN ∨ x.isInf then least
  else
    let (neg, biased, fraction) := Decimal.fields x
    let b := Decimal.Binary.ofFields biased fraction
    let mag : Nat := if biased = 0 then 0
      else if 0 ≤ b.exp then b.mant * Nat.pow 2 b.exp.toNat else b.mant / Nat.pow 2 (-b.exp).toNat
    let v : Int := if neg then -(mag : Int) else mag
    if -(9223372036854775808 : Int) ≤ v ∧ v < 9223372036854775808 then v else least

def ofMillis (ms : Float) : Duration := truncFloat (ms * 1000000.0)

def toMillis (d : Duration) : Int := d.tdiv 1000000

end Duration
end JuryCaptions
