import JuryCaptions.Number.Extended
/-!
Reading an 80-bit extended number from the front of a text as the C library
does: `inf`, `nan` with a payload, hexadecimal or decimal. Values are rounded
to the format; reaching `2^16384` is infinite and out of range.
-/

namespace JuryCaptions

/-- A number of the extended format: finite, an infinity, or not a number with
its sign and payload. -/
inductive ExtendedValue where
  | finite (x : Extended)
  | infinite (neg : Bool)
  | notANumber (neg : Bool) (payload : Nat)
  deriving Inhabited, BEq, Repr

/-- A number read from the front of a text: its value, whether it is out of
range, and the text after it. -/
structure ExtendedRead where
  value : ExtendedValue
  outOfRange : Bool := false
  rest : List Char
  deriving Inhabited

namespace Extended

def lowestExp : Int := -16445

/-- `num / den · 2^shift` with its sign, rounded to the format, and whether it
underflowed: below the least normal number and changed by rounding. -/
def roundedRatio (neg : Bool) (num den : Nat) (shift : Int) : Extended × Bool :=
  let x := ofRatio neg num den shift
  if num = 0 ∨ den = 0 ∨ lowestExp ≤ x.exp then (x, false)
  else
    -- the value as a multiple of the lowest bit
    let s := shift - lowestExp
    let (n, d) := if 0 ≤ s then (num * Nat.pow 2 s.toNat, den) else (num, den * Nat.pow 2 (-s).toNat)
    let q := Decimal.divRoundEven n d
    (ofScaled neg q lowestExp, q * d != n)

end Extended

namespace ExtendedValue

def isBlank (c : Char) : Bool := c == ' ' || (9 ≤ c.toNat && c.toNat ≤ 13)

def digit (base : Nat) (c : Char) : Option Nat := (NumberText.hexValue c).filter (· < base)

def digitsValue (base : Nat) (ds : List Char) : Nat := ds.foldl (fun n d => base * n + (digit base d).getD 0) 0

/-- The greatest exponent kept as written; a greater one gives the same
infinity, or the same zero. -/
def exponentCap : Nat := 100000

/-- Reads an exponent after its letter: its value and the rest, or none when
no digits follow. -/
def readExponent (cs : List Char) : Option (Int × List Char) :=
  let (neg, body) := NumberText.takeSign cs
  let ds := body.takeWhile Char.isDigit
  if ds.isEmpty then none
  else
    let v : Int := min (digitsValue 10 ds) exponentCap
    some (if neg then -v else v, body.drop ds.length)

/-- The finite number `m · 2^twos · 10^tens` with its sign, rounded to the
format; an infinity when it overflows. -/
def ofParts (neg : Bool) (m : Nat) (twos tens : Int) (rest : List Char) : ExtendedRead :=
  if m = 0 then { value := .finite { neg }, rest }
  else
    -- bounds on the size of the number, as a power of two and of ten
    let bits : Int := (m.log2 : Int) + 1 + twos
    let size : Int := (Decimal.digitCount m : Int) + tens
    if (tens == 0 && bits > 16384) || (twos == 0 && size > 4933) then
      { value := .infinite neg, outOfRange := true, rest }
    else if (tens == 0 && bits < -16446) || (twos == 0 && size < -4951) then
      { value := .finite { neg }, outOfRange := true, rest }
    else
      let (num, den) : Nat × Nat :=
        if 0 ≤ tens then (m * Nat.pow 10 tens.toNat, 1) else (m, Nat.pow 10 (-tens).toNat)
      let (x, under) := Extended.roundedRatio neg num den twos
      if x.fits then { value := .finite x, outOfRange := under, rest }
      else { value := .infinite neg, outOfRange := true, rest }

/-- The payload in the parentheses after `nan`, and what follows them; none
when they do not close. -/
def readPayload (cs : List Char) : Option (Nat × List Char) :=
  match cs with
  | '(' :: more =>
    let inside := more.takeWhile fun c => c.isAlphanum || c == '_'
    match more.drop inside.length with
    | ')' :: after =>
      let value : Option Nat := match inside with
        | '0' :: x :: hex =>
          if (x == 'x' || x == 'X') && !hex.isEmpty && hex.all (fun c => (digit 16 c).isSome) then
            some (digitsValue 16 hex)
          else if (x :: hex).all (fun c => (digit 8 c).isSome) then some (digitsValue 8 (x :: hex))
          else none
        | ds => if !ds.isEmpty && ds.all Char.isDigit then some (digitsValue 10 ds) else none
      some ((value.getD 0) % Nat.pow 2 62, after)
    | _ => none
  | _ => none

/-- Reads a number from the front of a text; none when no number stands there. -/
def read (text : List Char) : Option ExtendedRead :=
  let cs := text.dropWhile isBlank
  let (neg, body) := NumberText.takeSign cs
  let word (w : String) : Bool := NumberText.commonPrefixIgnoreCase body w.toList == w.length
  if word "infinity" then some { value := .infinite neg, rest := body.drop 8 }
  else if word "inf" then some { value := .infinite neg, rest := body.drop 3 }
  else if word "nan" then
    match readPayload (body.drop 3) with
    | some (p, after) => some { value := .notANumber neg p, rest := after }
    | none => some { value := .notANumber neg 0, rest := body.drop 3 }
  else
    let hex : Bool := match body with
      | '0' :: x :: r => (x == 'x' || x == 'X') &&
        ((digit 16 (r.headD ' ')).isSome || (r.headD ' ' == '.' && (digit 16 ((r.drop 1).headD ' ')).isSome))
      | _ => false
    let base := if hex then 16 else 10
    let body := if hex then body.drop 2 else body
    let whole := body.takeWhile fun c => (digit base c).isSome
    let after := body.drop whole.length
    let (frac, after) := match after with
      | '.' :: r => let f := r.takeWhile fun c => (digit base c).isSome; (f, r.drop f.length)
      | _ => ([], after)
    if whole.isEmpty && frac.isEmpty then none
    else
      let m := digitsValue base (whole ++ frac)
      let letter := if hex then 'p' else 'e'
      let (e, after) : Int × List Char := match after with
        | c :: r => if c.toLower == letter then (readExponent r).getD (0, after) else (0, after)
        | [] => (0, after)
      if hex then some (ofParts neg m (e - 4 * frac.length) 0 after)
      else some (ofParts neg m 0 (e - frac.length) after)

/-- The ten bytes of the format in memory, the lowest first: the significand,
then the exponent with the sign in its top bit. -/
def bytes : ExtendedValue → List Nat
  | .finite x =>
    if x.isZero then List.replicate 9 0 ++ [if x.neg then 128 else 0]
    else
      -- a number below the least normal one has the exponent field 0
      let field : Int := x.exp + 63 + 16383
      let (mant, field) : Nat × Nat :=
        if 0 < field then (x.mant, field.toNat)
        else (x.mant / Nat.pow 2 (1 - field).toNat, 0)
      littleEndian mant 8 ++ littleEndian (field + if x.neg then 32768 else 0) 2
  | .infinite neg => littleEndian 9223372036854775808 8 ++ [255, if neg then 255 else 127]
  | .notANumber neg p => littleEndian (13835058055282163712 + p) 8 ++ [255, if neg then 255 else 127]
where
  /-- The `count` low bytes of a number, the lowest first. -/
  littleEndian (n count : Nat) : List Nat := (List.range count).map fun i => n / Nat.pow 256 i % 256

/-- Compares as a sort by general value does: the zeros equal, a not-a-number
before every number and such ones by their bytes. -/
def compare (a b : ExtendedValue) : Ordering :=
  match a, b with
  | .notANumber _ _, .notANumber _ _ =>
    let rec bytewise : List Nat → List Nat → Ordering
      | x :: xs, y :: ys => if x < y then .lt else if y < x then .gt else bytewise xs ys
      | _, _ => .eq
    bytewise a.bytes b.bytes
  | .notANumber _ _, _ => .lt
  | _, .notANumber _ _ => .gt
  | .infinite p, .infinite q => if p == q then .eq else if p then .lt else .gt
  | .infinite p, .finite _ => if p then .lt else .gt
  | .finite _, .infinite q => if q then .gt else .lt
  | .finite x, .finite y => if x.lt y then .lt else if y.lt x then .gt else .eq

end ExtendedValue
end JuryCaptions
