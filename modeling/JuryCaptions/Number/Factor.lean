/-!
Prime factors of whole numbers, ascending with repeats: small primes divided
out, the strong probable-prime test to the first thirteen primes, and Pollard's
rho in Brent's form.
-/

namespace JuryCaptions
namespace Factor

def powMod (m b e : Nat) : Nat :=
  if e = 0 then 1 % m
  else
    let half := powMod m (b * b % m) (e / 2)
    if e % 2 = 1 then b * half % m else half
termination_by e
decreasing_by omega

/-- The power of two in a number and its odd part: `n = d · 2^s` as `(s, d)`;
zero gives `(0, 0)`. -/
def splitTwos (n : Nat) : Nat × Nat :=
  if n ≠ 0 ∧ n % 2 = 0 then
    let (s, d) := splitTwos (n / 2)
    (s + 1, d)
  else (0, n)
termination_by n
decreasing_by omega

/-- Whether `x` reaches `-1` modulo `n` within `k` squarings. -/
def reachesMinusOne (n : Nat) : Nat → Nat → Bool
  | 0, _ => false
  | k + 1, x =>
    let y := x * x % n
    y == n - 1 || reachesMinusOne n k y

/-- Whether an odd `n > 2` passes the strong probable-prime test to base `a`. -/
def strongProbable (n a : Nat) : Bool :=
  let (s, d) := splitTwos (n - 1)
  let x := powMod n (a % n) d
  x == 1 || x == n - 1 || reachesMinusOne n (s - 1) x

def smallPrimes : List Nat :=
  [2, 3, 5, 7, 11, 13, 17, 19, 23, 29, 31, 37, 41, 43, 47, 53, 59, 61, 67, 71, 73, 79, 83, 89, 97]

/-- Whether a number is prime: exact below 3.3 · 10^24, and a strong probable
prime to twenty-five bases above. -/
def isPrime (n : Nat) : Bool :=
  if n < 2 then false
  else if smallPrimes.contains n then true
  else if smallPrimes.any (n % · == 0) then false
  else smallPrimes.all (strongProbable n)

def dist (a b : Nat) : Nat := if a ≤ b then b - a else a - b

def step (n c x : Nat) : Nat := (x * x + c) % n

def steps (n c : Nat) : Nat → Nat → Nat
  | 0, x => x
  | k + 1, x => steps n c k (step n c x)

/-- `k` steps of the walk from `y`, each distance from `x` multiplied into `q`
modulo `n`. -/
def batch (n c x : Nat) : Nat → Nat × Nat → Nat × Nat
  | 0, acc => acc
  | k + 1, (y, q) =>
    let y := step n c y
    batch n c x k (y, q * dist x y % n)

/-- One round of the walk, `left` steps in batches of `m`: the first batch whose
product shares a factor with `n` ends it with that factor and where the batch
began; otherwise the walk's point and product at its end. -/
def round (n c x m : Nat) : Nat → Nat → Nat → Nat → (Nat × Nat) ⊕ (Nat × Nat)
  | 0, _, y, q => .inr (y, q)
  | b + 1, left, y, q =>
    let (y', q') := batch n c x (min m left) (y, q)
    let g := Nat.gcd q' n
    if g != 1 then .inl (g, y) else round n c x m b (left - m) y' q'

/-- The rounds of the walk, each twice as long as the one before; a factor
found, with the round's start and where its batch began. -/
def walk (n c m : Nat) : Nat → Nat → Nat → Nat → Option (Nat × Nat × Nat)
  | 0, _, _, _ => none
  | f + 1, r, y, q =>
    let y' := steps n c r y
    match round n c y m ((r + m - 1) / m) r y' q with
    | .inl (g, ys) => some (g, y, ys)
    | .inr (y'', q') => walk n c m f (2 * r) y'' q'

/-- Steps one at a time from where a batch began until the distance from `x`
shares a factor with `n`; `n` itself when none does within the fuel. -/
def backtrack (n c x : Nat) : Nat → Nat → Nat
  | 0, _ => n
  | f + 1, y =>
    let y := step n c y
    let g := Nat.gcd (dist x y) n
    if g > 1 then g else backtrack n c x f y

def batchLength : Nat := 128

/-- A proper factor of a composite `n` found by the walk with constant `c`. -/
def rhoFactor (n c : Nat) : Option Nat :=
  match walk n c batchLength 64 1 2 1 with
  | none => none
  | some (g, x, ys) =>
    let g := if g == n then backtrack n c x (batchLength + 1) ys else g
    if 1 < g && g < n then some g else none

/-- A proper factor of a composite `n`, the walk tried with the constants
`1, 2, …` until one gives it. -/
def properFactor (n : Nat) : Option Nat :=
  if n % 2 == 0 then some 2
  else (List.range 64).findSome? fun k => rhoFactor n (k + 1)

/-- Divides `d` out of `n` as often as it goes, with the count. -/
def divideOut (d : Nat) : Nat → Nat → Nat × Nat
  | 0, n => (0, n)
  | f + 1, n =>
    if 1 < d && n % d == 0 && n != 0 then
      let (k, rest) := divideOut d f (n / d)
      (k + 1, rest)
    else (0, n)

def trialBound : Nat := 1000

/-- The factors below the bound of trial division, and the part of `n`
left. -/
def trialFactors (n : Nat) : List Nat × Nat :=
  (List.range' 2 (trialBound - 2)).foldl (fun ((fs : List Nat), (m : Nat)) d =>
    if m % d == 0 && m != 0 then
      let (k, rest) := divideOut d (Nat.log2 m + 1) m
      (fs ++ List.replicate k d, rest)
    else (fs, m)) ([], n)

/-- Splits the numbers of a list into primes, twice the bits of their product
bounding the steps; a number no walk splits is kept whole. -/
def splitAll : Nat → List Nat → List Nat
  | 0, ns => ns
  | _ + 1, [] => []
  | f + 1, n :: rest =>
    if n ≤ 1 then splitAll f rest
    else if isPrime n then n :: splitAll f rest
    else match properFactor n with
      | some d => splitAll f (d :: n / d :: rest)
      | none => n :: splitAll f rest

/-- The prime factors of `n` in ascending order, each as often as it divides
`n`; none for zero and one. -/
def primeFactors (n : Nat) : List Nat :=
  if n < 2 then []
  else
    let (small, rest) := trialFactors n
    small ++ (splitAll (2 * Nat.log2 rest + 4) [rest]).mergeSort

end Factor
end JuryCaptions
