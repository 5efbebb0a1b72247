/-!
The versions of two-dimensional codes at the lowest error-correction level:
version `v` is `17 + 4v` modules square, its codewords cut into blocks with one
number of correction words, alignment patterns centred on pairs of its centre
coordinates clear of the finders.
-/

namespace JuryCaptions
namespace Qr

structure BlockGroup where
  count : Nat
  dataWords : Nat
  deriving Repr, Inhabited

structure Layout where
  /-- The correction words of every block. -/
  correctionWords : Nat
  groups : List BlockGroup
  deriving Repr, Inhabited

/-- The block layouts of versions 1 to 40 at the lowest correction level. -/
def lowLayouts : List Layout :=
  let one (ec n d : Nat) : Layout := ⟨ec, [⟨n, d⟩]⟩
  let two (ec n d m e : Nat) : Layout := ⟨ec, [⟨n, d⟩, ⟨m, e⟩]⟩
  [one 7 1 19, one 10 1 34, one 15 1 55, one 20 1 80, one 26 1 108,
   one 18 2 68, one 20 2 78, one 24 2 97, one 30 2 116, two 18 2 68 2 69,
   one 20 4 81, two 24 2 92 2 93, one 26 4 107, two 30 3 115 1 116, two 22 5 87 1 88,
   two 24 5 98 1 99, two 28 1 107 5 108, two 30 5 120 1 121, two 28 3 113 4 114,
   two 28 3 107 5 108,
   two 28 4 116 4 117, two 28 2 111 7 112, two 30 4 121 5 122, two 30 6 117 4 118,
   two 26 8 106 4 107, two 28 10 114 2 115, two 30 8 122 4 123, two 30 3 117 10 118,
   two 30 7 116 7 117, two 30 5 115 10 116,
   two 30 13 115 3 116, one 30 17 115, two 30 17 115 1 116, two 30 13 115 6 116,
   two 30 12 121 7 122, two 30 6 121 14 122, two 30 17 122 4 123, two 30 4 122 18 123,
   two 30 20 117 4 118, two 30 19 118 6 119]

def layoutOf (v : Nat) : Layout := lowLayouts.getD (v - 1) default

def Layout.dataBits (l : Layout) : Nat :=
  8 * (l.groups.map fun g => g.count * g.dataWords).foldl (· + ·) 0

def Layout.blockLengths (l : Layout) : List Nat :=
  l.groups.flatMap fun g => List.replicate g.count g.dataWords

def sideOf (v : Nat) : Nat := 17 + 4 * v

def remainderBits (v : Nat) : Nat :=
  if v ≤ 1 then 0 else if v ≤ 6 then 7 else if v ≤ 13 then 0 else if v ≤ 20 then 3
  else if v ≤ 27 then 4 else if v ≤ 34 then 3 else 0

/-- The centre coordinates of the alignment patterns of versions 2 to 40: 6, then
evenly spaced up to seven from the far side, 26 apart in version 32 and
otherwise at an even spacing rounded up. -/
def alignmentCentres (v : Nat) : List Nat :=
  if v < 2 || 40 < v then [] else
    let n := v / 7 + 2
    let step := if v = 32 then 26 else (v * 4 + n * 2 + 1) / (n * 2 - 2) * 2
    6 :: ((List.range (n - 1)).map fun i => sideOf v - 7 - i * step).reverse

/-- The smallest version from `lo` to `hi` whose capacity holds `bits` bits. -/
def smallestVersion (lo hi bits : Nat) : Option Nat :=
  (List.range' lo (hi + 1 - lo)).find? fun v => bits ≤ (layoutOf v).dataBits

end Qr
end JuryCaptions
