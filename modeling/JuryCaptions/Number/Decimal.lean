/-!
Exact decimals and the shortest digits of a double. A finite double `m · 2^e`
is the exact decimal `m · 5^(-e) · 10^e` for `e < 0`. `Float.shortest` takes the
fewest digits with a neighbour reading back as the double, the nearer of two,
of equally near ones the even.
-/

namespace JuryCaptions
namespace Decimal

structure Exact where
  coef : Nat
  exp : Int
  deriving Repr, BEq, Inhabited

def Exact.compare (a b : Exact) : Ordering :=
  if a.exp ≤ b.exp then
    Ord.compare a.coef (b.coef * Nat.pow 10 (b.exp - a.exp).toNat)
  else
    Ord.compare (a.coef * Nat.pow 10 (a.exp - b.exp).toNat) b.coef

def ofBinary (m : Nat) (e : Int) : Exact :=
  if 0 ≤ e then ⟨m * Nat.pow 2 e.toNat, 0⟩ else ⟨m * Nat.pow 5 (-e).toNat, e⟩

/-- The number of decimal digits of `n`, counting one for zero. -/
def digitCount (n : Nat) : Nat :=
  (Nat.toDigits 10 n).length

def Exact.trim (d : Exact) : Exact :=
  go d.coef.log2 d
where
  go : Nat → Exact → Exact
  | 0, d => d
  | fuel + 1, d =>
    if d.coef ≠ 0 ∧ d.coef % 10 = 0 then go fuel ⟨d.coef / 10, d.exp + 1⟩ else d

/-- A finite, non-zero double as integer significand and binary exponent, with
the ends of its rounding interval, included when the significand is even. -/
structure Binary where
  mant : Nat
  exp : Int
  /-- The lower end is nearer than the upper one: the significand is a power of
  two and the exponent is not the least one. -/
  narrowBelow : Bool

def Binary.ofFields (biased : Nat) (fraction : Nat) : Binary :=
  if biased = 0 then ⟨fraction, -1074, false⟩
  else ⟨fraction + 4503599627370496, (biased : Int) - 1075, fraction = 0 ∧ biased > 1⟩

def Binary.value (b : Binary) : Exact := ofBinary b.mant b.exp

def Binary.upper (b : Binary) : Exact := ofBinary (2 * b.mant + 1) (b.exp - 1)

def Binary.lower (b : Binary) : Exact :=
  if b.narrowBelow then ofBinary (4 * b.mant - 1) (b.exp - 2)
  else ofBinary (2 * b.mant - 1) (b.exp - 1)

def Binary.readsBack (b : Binary) (d : Exact) : Bool :=
  let inclusive := b.mant % 2 == 0
  match d.compare b.lower, d.compare b.upper with
  | .lt, _ => false
  | _, .gt => false
  | .eq, _ => inclusive
  | _, .eq => inclusive
  | _, _ => true

/-- The candidates with `n` significant digits, read off the exact value
`coef · 10^exp` whose coefficient has `count` digits. -/
def Binary.pick (b : Binary) (v : Exact) (count n : Nat) : Option Exact :=
  let drop := count - n
  let unit := Nat.pow 10 drop
  let down := v.coef / unit
  let lo : Exact := ⟨down, v.exp + drop⟩
  let hi : Exact := ⟨down + 1, v.exp + drop⟩
  match b.readsBack lo, b.readsBack hi with
  | true, true =>
    let below := v.coef - down * unit
    let above := (down + 1) * unit - v.coef
    if below < above then some lo
    else if above < below then some hi
    else if down % 2 = 0 then some lo else some hi
  | true, false => some lo
  | false, true => some hi
  | false, false => none

/-- The shortest decimal that reads back as the double, one more digit at a
time; the exact value reads back, so the search ends. -/
def Binary.shortest (b : Binary) : Exact :=
  let v := b.value
  let count := digitCount v.coef
  let rec go : Nat → Nat → Exact
    | 0, _ => v.trim
    | fuel + 1, n =>
      if count ≤ n then v.trim
      else match b.pick v count n with
        | some d => d.trim
        | none => go fuel (n + 1)
  go count 1

def fields (x : Float) : Bool × Nat × Nat :=
  let bits := x.toBits.toNat
  (bits / 9223372036854775808 = 1, (bits / 4503599627370496) % 2048, bits % 4503599627370496)

/-- The digits of a decimal and the place of its point: the value is
`0.d₁d₂…dₙ × 10^point`. -/
structure DigitString where
  digits : List Char
  point : Int
  deriving Repr, BEq

def shortestDigits (x : Float) : DigitString :=
  let (_, biased, fraction) := fields x
  let d := (Binary.ofFields biased fraction).shortest
  let ds := Nat.toDigits 10 d.coef
  ⟨ds, d.exp + ds.length⟩

end Decimal
end JuryCaptions
