import JuryCaptions.Number.Read
/-!
Trigonometry and remainders on doubles, computed the same way on every machine:
Cody and Waite reduction with Cephes coefficients, Payne and Hanek from `2^29`
on, the Cephes arc tangent, and an exact `fmod`.
-/

namespace JuryCaptions
namespace Trig

def pi : Float := 3.141592653589793

def fourOverPi : Float := 1.2732395447351628

def quarterPi : Float := 0.7853981633974483

def halfPi : Float := 1.5707963267948966

def pi4a : Float := 7.85398125648498535156e-1
def pi4b : Float := 3.77489470793079817668e-8
def pi4c : Float := 2.69515142907905952645e-15

def sinCoef : List Float :=
  [1.58962301576546568060e-10, -2.50507477628578072866e-8, 2.75573136213857245213e-6,
   -1.98412698295895385996e-4, 8.33333333332211858878e-3, -1.66666666666666307295e-1]

def cosCoef : List Float :=
  [-1.13585365213876817300e-11, 2.08757008419747316778e-9, -2.75573141792967388112e-7,
   2.48015872888517045348e-5, -1.38888888888730564116e-3, 4.16666666666665929218e-2]

/-- Horner's rule from the highest coefficient, `((c₀·z + c₁)·z + …)·z + c₅`. -/
def horner (cs : List Float) (z : Float) : Float :=
  match cs with
  | [] => 0.0
  | c :: rest => rest.foldl (fun acc k => acc * z + k) c

def sinPoly (z : Float) : Float :=
  let zz := z * z
  z + z * zz * horner sinCoef zz

def cosPoly (z : Float) : Float :=
  let zz := z * z
  1.0 - 0.5 * zz + zz * zz * horner cosCoef zz

/-- The binary digits of `4/π`, 64 at a time, starting with the integer part. -/
def fourOverPiWords : List Nat :=
  [0x0000000000000001, 0x45f306dc9c882a53, 0xf84eafa3ea69bb81, 0xb6c52b3278872083,
   0xfca2c757bd778ac3, 0x6e48dc74849ba5c0, 0x0c925dd413a32439, 0xfc3bd63962534e7d,
   0xd1046bea5d768909, 0xd338e04d68befc82, 0x7323ac7306a673e9, 0x3908bf177bf25076,
   0x3ff12fffbc0b301f, 0xde5e2316b414da3e, 0xda6cfd9e4f96136e, 0x9e8c7ecd3cbfd45a,
   0xea4f758fd7cbe2f6, 0x7a0e73ef14a525d4, 0xd7f6bf623f1aba10, 0xac06608df8f6d757]

def fourOverPiWord (i : Nat) : Nat := fourOverPiWords.getD i 0

def word (n : Nat) : Nat := n % 18446744073709551616

/-- The number of leading zero bits of a 64-bit word. -/
def leadingZeros (n : Nat) : Nat := if n = 0 then 64 else 63 - n.log2

/-- Reduces a large positive argument to an octant and an offset in it, with the
binary digits of `4/π` taken at the place the argument's exponent selects. -/
def reduceLarge (x : Float) : Nat × Float :=
  if x < quarterPi then (0, x)
  else
    let (_, biased, fraction) := Decimal.fields x
    let exp : Int := (biased : Int) - 1023 - 52
    let ix := fraction + 4503599627370496
    let place := (exp + 61).toNat
    let digit := place / 64
    let shift := place % 64
    let part (k : Nat) : Nat :=
      if shift = 0 then fourOverPiWord (digit + k)
      else word (fourOverPiWord (digit + k) * Nat.pow 2 shift + fourOverPiWord (digit + k + 1) / Nat.pow 2 (64 - shift))
    let z0 := part 0
    let z1 := part 1
    let z2 := part 2
    let z2hi := (z2 * ix) / 18446744073709551616
    let z1hi := (z1 * ix) / 18446744073709551616
    let z1lo := word (z1 * ix)
    let z0lo := word (z0 * ix)
    let loSum := z1lo + z2hi
    let lo := word loSum
    let carry := loSum / 18446744073709551616
    let hi := word (z0lo + z1hi + carry)
    let j := hi / 2305843009213693952
    let hi := word (hi * 8 + lo / 2305843009213693952)
    let lz := leadingZeros hi
    let e := 1023 - (lz + 1)
    let low := if lz + 1 > 64 then 0 else lo / Nat.pow 2 (64 - (lz + 1))
    let hi := word (word (hi * Nat.pow 2 (lz + 1)) + low)
    let hi := hi / 4096
    let z := Float.ofBits (UInt64.ofNat (hi + e * 4503599627370496))
    let (j, z) := if j % 2 = 1 then ((j + 1) % 8, z - 1.0) else (j, z)
    (j, z * quarterPi)

def reduce (x : Float) : Nat × Float :=
  if x ≥ 536870912.0 then reduceLarge x
  else
    let j := (x * fourOverPi).toUInt64.toNat
    let y := Float.ofNat j
    let (j, y) := if j % 2 = 1 then (j + 1, y + 1.0) else (j, y)
    (j % 8, ((x - y * pi4a) - y * pi4b) - y * pi4c)

def sin (x : Float) : Float :=
  if x == 0 || x.isNaN then x
  else if x.isInf then 0.0 / 0.0
  else
    let (neg, x) := if x < 0 then (true, -x) else (false, x)
    let (j, z) := reduce x
    let (neg, j) := if j > 3 then (!neg, j - 4) else (neg, j)
    let y := if j = 1 ∨ j = 2 then cosPoly z else sinPoly z
    if neg then -y else y

def cos (x : Float) : Float :=
  if x.isNaN || x.isInf then 0.0 / 0.0
  else
    let x := x.abs
    let (j, z) := reduce x
    let (neg, j) := if j > 3 then (true, j - 4) else (false, j)
    let neg := if j > 1 then !neg else neg
    let y := if j = 1 ∨ j = 2 then sinPoly z else cosPoly z
    if neg then -y else y

def atanCore (x : Float) : Float :=
  let z := x * x
  let p := (((-8.750608600031904122785e-01 * z + -1.615753718733365076637e+01) * z +
    -7.500855792314704667340e+01) * z + -1.228866684490136173410e+02) * z + -6.485021904942025371773e+01
  let q := ((((z + 2.485846490142306297962e+01) * z + 1.650270098316988542046e+02) * z +
    4.328810604912902668951e+02) * z + 4.853903996359136964868e+02) * z + 1.945506571482613964425e+02
  let z := z * p / q
  x * z + x

def atanPos (x : Float) : Float :=
  let moreBits : Float := 6.123233995736765886130e-17
  if x ≤ 0.66 then atanCore x
  else if x > 2.41421356237309504880 then halfPi - atanCore (1.0 / x) + moreBits
  else quarterPi + atanCore ((x - 1.0) / (x + 1.0)) + 0.5 * moreBits

def atan (x : Float) : Float :=
  if x == 0 then x
  else if x > 0 then atanPos x
  else -(atanPos (-x))

def degToRad (d : Float) : Float := d * pi / 180.0

/-- The exact remainder of `x` by `y`, of the sign of `x`; not a number when `y` is
zero or either is not a number, or when `x` is infinite. -/
def fmod (x y : Float) : Float :=
  if y == 0 || x.isInf || x.isNaN || y.isNaN then 0.0 / 0.0
  else if y.isInf then x
  else
    let (xneg, xb, xf) := Decimal.fields x
    let (_, yb, yf) := Decimal.fields y
    if xb = 0 ∧ xf = 0 then x
    else
      let bx := Decimal.Binary.ofFields xb xf
      let by_ := Decimal.Binary.ofFields yb yf
      let e := min bx.exp by_.exp
      let mx := bx.mant * Nat.pow 2 (bx.exp - e).toNat
      let my := by_.mant * Nat.pow 2 (by_.exp - e).toNat
      let r := mx % my
      let mag := if r = 0 then 0.0 else Decimal.ofRatio r 1 e
      if xneg then -mag else mag

end Trig
end JuryCaptions
