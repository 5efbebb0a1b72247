import JuryCaptions.Random.Cooked
/-!
A seeded pseudo-random source: an additive lagged Fibonacci generator of 607
words, tap and feed 273 apart. Seeding runs a multiplicative generator modulo
`2^31 - 1`; bounded draws reject biasing values up to `rejectionLimit` times.
-/

namespace JuryCaptions
namespace Random

def size : Nat := 607

def lag : Nat := 273

def modulus : Int := 2147483648 - 1

/-- One step of the seeding generator, `x ↦ 48271 · x mod (2^31 - 1)`,
computed without leaving 32 bits. -/
def seedStep (x : Int) : Int :=
  let hi := x.tdiv 44488
  let lo := x.tmod 44488
  let y := 48271 * lo - 3399 * hi
  if y < 0 then y + modulus else y

structure Rng where
  words : Array UInt64
  tap : Nat
  feed : Nat
  deriving Inhabited

/-- The words built by seeding from `x`, for the places from `i` on. -/
def seedWords (x : Int) : Nat → Nat → List UInt64
  | 0, _ => []
  | n + 1, i =>
    let x1 := seedStep x
    let x2 := seedStep x1
    let x3 := seedStep x2
    let u := (UInt64.ofInt x1 <<< 40) ^^^ (UInt64.ofInt x2 <<< 20) ^^^ UInt64.ofInt x3
    (u ^^^ cooked.getD i 0) :: seedWords x3 n (i + 1)

def skip : Nat → Int → Int
  | 0, x => x
  | n + 1, x => skip n (seedStep x)

def Rng.seeded (seed : Int) : Rng :=
  let s := seed.tmod modulus
  let s := if s < 0 then s + modulus else s
  let s := if s = 0 then 89482311 else s
  -- the first draw of the word loop comes after twenty discarded ones
  { words := (seedWords (skip 20 s) size 0).toArray, tap := 0, feed := size - lag }

namespace Rng

def next (r : Rng) : UInt64 × Rng :=
  let tap := if r.tap = 0 then size - 1 else r.tap - 1
  let feed := if r.feed = 0 then size - 1 else r.feed - 1
  let x := r.words.getD feed 0 + r.words.getD tap 0
  (x, { words := r.words.set! feed x, tap := tap, feed := feed })

def int63 (r : Rng) : Nat × Rng :=
  let (x, r) := r.next
  ((x &&& 0x7FFFFFFFFFFFFFFF).toNat, r)

/-- A draw of 31 bits: the top 31 of a 63-bit draw. -/
def int31 (r : Rng) : Nat × Rng :=
  let (x, r) := r.int63
  (x / 4294967296, r)

def rejectionLimit : Nat := 1000

/-- Draws with `draw` until a value is at most `max`, giving it modulo `n`. -/
def below (draw : Rng → Nat × Rng) (max n : Nat) : Nat → Rng → Nat × Rng
  | 0, r => let (v, r) := draw r; (v % n, r)
  | fuel + 1, r =>
    let (v, r) := draw r
    if v > max then below draw max n fuel r else (v % n, r)

def int63n (r : Rng) (n : Nat) : Nat × Rng :=
  if n &&& (n - 1) = 0 then
    let (v, r) := r.int63
    (v &&& (n - 1), r)
  else below int63 (9223372036854775808 - 1 - 9223372036854775808 % n) n rejectionLimit r

/-- A draw below `n` of 31 bits, for `0 < n < 2^31`. -/
def int31n (r : Rng) (n : Nat) : Nat × Rng :=
  if n &&& (n - 1) = 0 then
    let (v, r) := r.int31
    (v &&& (n - 1), r)
  else below int31 (2147483648 - 1 - 2147483648 % n) n rejectionLimit r

/-- A draw below `n`, for `0 < n`: of 31 bits when `n` fits in them. -/
def intn (r : Rng) (n : Nat) : Nat × Rng :=
  if n < 2147483648 then r.int31n n else r.int63n n

end Rng

end Random
end JuryCaptions
