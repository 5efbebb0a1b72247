/-!
Reed–Solomon error correction words over the field of 256 elements, products
taken modulo `0x11d` through the table of powers of `2`. A block's `n` words
are the remainder of its data shifted by `x^n` divided by
`(x - 2⁰)(x - 2¹)⋯(x - 2^(n-1))`, computed as a shift register.
-/

namespace JuryCaptions
namespace Qr
namespace Field

/-- The reducing polynomial `x⁸ + x⁴ + x³ + x² + 1`. -/
def reducer : Nat := 0x11d

def double (a : Nat) : Nat :=
  if 2 * a ≥ 256 then (2 * a) ^^^ reducer else 2 * a

def powers : Array Nat :=
  ((List.range 255).foldl (fun (acc : Array Nat × Nat) _ => (acc.1.push acc.2, double acc.2))
    (#[], 1)).1

/-- The discrete logarithm of each non-zero element (zero maps to zero). -/
def logs : Array Nat :=
  (List.range 255).foldl (fun acc i => acc.setIfInBounds (powers.getD i 0) i) (Array.replicate 256 0)

def power (i : Nat) : Nat := powers.getD (i % 255) 1

def mul (a b : Nat) : Nat :=
  if a = 0 ∨ b = 0 then 0 else power (logs.getD a 0 + logs.getD b 0)

end Field

namespace Correction

/-- The coefficients of the generator polynomial of degree `n`, highest first;
the first is always one. -/
def generator (n : Nat) : List Nat :=
  (List.range n).foldl (fun p i =>
    let c := Field.power i
    List.zipWith (· ^^^ ·) (p ++ [0]) (0 :: p.map (Field.mul c))) [1]

/-- One step of the division: feeds a data word into the register. -/
def feed (lower : List Nat) (register : List Nat) (word : Nat) : List Nat :=
  let factor := word ^^^ register.headD 0
  List.zipWith (· ^^^ ·) (register.drop 1 ++ [0]) (lower.map (Field.mul factor))

/-- The `n` correction words of a block of data words. -/
def words (n : Nat) (data : List Nat) : List Nat :=
  data.foldl (feed (generator n).tail) (List.replicate n 0)

end Correction
end Qr
end JuryCaptions
