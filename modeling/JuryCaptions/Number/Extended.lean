import JuryCaptions.Number.Read
/-!
Numbers of the 80-bit extended format: a sign and a 64-bit significand scaled by
a power of two. Results are rounded to nearest, ties to even; the exponent is
not bounded below, and `Extended.fits` tells whether a number stays below
`2^16384`.
-/

namespace JuryCaptions

/-- A finite number of the extended format, `mant · 2^exp` with its sign; the
significand of a number other than zero has its top bit, of sixty-four, set. -/
structure Extended where
  neg : Bool := false
  mant : Nat := 0
  exp : Int := 0
  deriving Inhabited, BEq, Repr

namespace Extended

/-- The least significand of a number other than zero, `2^63`. -/
def least : Nat := 9223372036854775808

def bound : Nat := 18446744073709551616

/-- `n · 2^e` with its sign, rounded to sixty-four significant bits. -/
def ofScaled (neg : Bool) (n : Nat) (e : Int) : Extended :=
  if n = 0 then { neg }
  else
    let size := n.log2 + 1
    if size ≤ 64 then { neg, mant := n * Nat.pow 2 (64 - size), exp := e - ((64 - size : Nat) : Int) }
    else
      let k := size - 64
      let q := Decimal.divRoundEven n (Nat.pow 2 k)
      -- rounding up may carry into a sixty-fifth bit
      if q = bound then { neg, mant := least, exp := e + k + 1 } else { neg, mant := q, exp := e + k }

/-- `num / den · 2^shift` with its sign, rounded to sixty-four significant bits. -/
def ofRatio (neg : Bool) (num den : Nat) (shift : Int) : Extended :=
  if num = 0 ∨ den = 0 then { neg }
  else
    -- with `k0` the quotient lies in `(2^62, 2^64)`; one more bit when it is below `2^63`
    let k0 : Int := 63 - ((num.log2 : Int) - den.log2)
    let scaled (k : Int) : Nat × Nat :=
      if 0 ≤ k then (num * Nat.pow 2 k.toNat, den) else (num, den * Nat.pow 2 (-k).toNat)
    let k := if (scaled k0).1 < least * (scaled k0).2 then k0 + 1 else k0
    let q := Decimal.divRoundEven (scaled k).1 (scaled k).2
    if q = bound then { neg, mant := least, exp := shift - k + 1 } else { neg, mant := q, exp := shift - k }

def ofInt (n : Int) : Extended := ofScaled (n < 0) n.natAbs 0

/-- The number of a decimal text: its sign, its digits and the power of ten they are scaled by. -/
def ofDecimal (neg : Bool) (digits : Nat) (exp10 : Int) : Extended :=
  if 0 ≤ exp10 then ofScaled neg (digits * Nat.pow 10 exp10.toNat) 0
  else ofRatio neg digits (Nat.pow 10 (-exp10).toNat) 0

def isZero (x : Extended) : Bool := x.mant == 0

/-- Whether the number is below the format's overflow, `2^16384`. -/
def fits (x : Extended) : Bool := x.mant == 0 || x.exp ≤ 16320

/-- The signed significand scaled to the exponent `e`, which is at most the number's own. -/
def scaledTo (x : Extended) (e : Int) : Int :=
  let m : Int := ((x.mant * Nat.pow 2 (x.exp - e).toNat : Nat) : Int)
  if x.neg then -m else m

def add (x y : Extended) : Extended :=
  if x.isZero && y.isZero then { neg := x.neg && y.neg }
  else if x.isZero then y
  else if y.isZero then x
  else
    let e := min x.exp y.exp
    let s := x.scaledTo e + y.scaledTo e
    ofScaled (s < 0) s.natAbs e

def mul (x y : Extended) : Extended :=
  if x.isZero || y.isZero then { neg := x.neg != y.neg }
  else ofScaled (x.neg != y.neg) (x.mant * y.mant) (x.exp + y.exp)

/-- The two numbers as whole numbers at one scale; zeros of either sign are equal. -/
def common (x y : Extended) : Int × Int :=
  let e := min x.exp y.exp
  (x.scaledTo e, y.scaledTo e)

def lt (x y : Extended) : Bool := (common x y).1 < (common x y).2

/-- Whether `x` equals `y`, zeros of either sign being equal. -/
def same (x y : Extended) : Bool := (common x y).1 == (common x y).2

def magnitude (x : Extended) : Decimal.Exact :=
  if x.isZero then ⟨0, 0⟩ else Decimal.ofBinary x.mant x.exp

/-- The magnitude as `(lead + frac / 16^15) · 2^exp` with a leading hexadecimal
digit of the top four bits, as the extended format is written by `%a`. -/
def hexParts (x : Extended) : Nat × Nat × Int :=
  if x.isZero then (0, 0, 0)
  else (x.mant / 1152921504606846976, x.mant % 1152921504606846976, x.exp + 60)

def whole? (x : Extended) : Option Int :=
  let m : Int := if x.neg then -(x.mant : Int) else x.mant
  if 0 ≤ x.exp then some (m * (Nat.pow 2 x.exp.toNat : Int))
  else if x.mant % Nat.pow 2 (-x.exp).toNat == 0 then some (m / (Nat.pow 2 (-x.exp).toNat : Int))
  else none

def div (x y : Extended) : Extended := ofRatio (x.neg != y.neg) x.mant y.mant (x.exp - y.exp)

def negate (x : Extended) : Extended := { x with neg := !x.neg }

def sub (x y : Extended) : Extended := add x (negate y)

def abs (x : Extended) : Extended := { x with neg := false }

def ofNat (n : Nat) : Extended := Extended.ofInt n

def trunc (x : Extended) : Int :=
  let m : Nat := if 0 ≤ x.exp then x.mant * Nat.pow 2 x.exp.toNat else x.mant / Nat.pow 2 (-x.exp).toNat
  if x.neg then -(m : Int) else m

/-- `base` to a power, multiplied out one factor at a time, each product
rounded. -/
def power (base : Extended) (n : Nat) : Extended :=
  if n == 0 then ofNat 1 else (List.range (n - 1)).foldl (fun acc _ => mul acc base) base

def ge (x y : Extended) : Bool := !lt x y

end Extended
end JuryCaptions
