import JuryCaptions.Qr.Version
/-!
The module matrix of a two-dimensional code: the function patterns first, then
the data two columns at a time from the right, up and down in turns, each bit
inverted where the mask holds.
-/

namespace JuryCaptions
namespace Qr

/-- A square of modules: dark, light, or not yet set, row by row. -/
structure Matrix where
  side : Nat
  cells : Array (Option Bool)
  deriving Inhabited

namespace Matrix

def empty (side : Nat) : Matrix := ⟨side, Array.replicate (side * side) none⟩

def get? (m : Matrix) (x y : Nat) : Option Bool :=
  if x < m.side ∧ y < m.side then m.cells.getD (y * m.side + x) none else none

/-- Whether the module in column `x` of row `y` is set. -/
def isSet (m : Matrix) (x y : Nat) : Bool := (m.get? x y).isSome

def set (m : Matrix) (x y : Nat) (v : Bool) : Matrix :=
  if x < m.side ∧ y < m.side then { m with cells := m.cells.setIfInBounds (y * m.side + x) (some v) }
  else m

/-- Sets a rectangle of `w × h` modules at column `x`, row `y`, by a rule on the
place inside it. -/
def fill (m : Matrix) (x y w h : Nat) (rule : Nat → Nat → Bool) : Matrix :=
  (List.range h).foldl (fun m j => (List.range w).foldl (fun m i => m.set (x + i) (y + j) (rule i j)) m) m

/-- A finder pattern: a dark ring, a light ring, and a dark centre of three. -/
def finderRule (i j : Nat) : Bool :=
  i = 0 ∨ i = 6 ∨ j = 0 ∨ j = 6 ∨ (2 ≤ i ∧ i ≤ 4 ∧ 2 ≤ j ∧ j ≤ 4)

/-- An alignment pattern: a dark ring, a light ring and a dark centre. -/
def alignmentRule (i j : Nat) : Bool :=
  i = 0 ∨ i = 4 ∨ j = 0 ∨ j = 4 ∨ (i = 2 ∧ j = 2)

def addFinders (m : Matrix) : Matrix :=
  let n := m.side
  let light := fun (_ _ : Nat) => false
  let m := m.fill 0 0 7 7 finderRule
  let m := m.fill 0 7 8 1 light
  let m := m.fill 7 0 1 8 light
  let m := m.fill (n - 7) 0 7 7 finderRule
  let m := m.fill (n - 8) 7 8 1 light
  let m := m.fill (n - 8) 0 1 8 light
  let m := m.fill 0 (n - 7) 7 7 finderRule
  let m := m.fill 0 (n - 8) 8 1 light
  m.fill 7 (n - 8) 1 8 light

def addAlignments (m : Matrix) (centres : List Nat) : Matrix :=
  centres.foldl (fun m x => centres.foldl (fun m y =>
    if m.isSet x y then m else m.fill (x - 2) (y - 2) 5 5 alignmentRule) m) m

def addTiming (m : Matrix) : Matrix :=
  (List.range' 8 (m.side - 15)).foldl (fun m i =>
    let v := i % 2 = 0
    (m.set i 6 v).set 6 i v) m

/-- The remainder of a polynomial over the two-element field, given as the bits
of a number, divided by a generator of degree `degree`; `shifts` is the number
of places the top of the dividend lies above the generator's. -/
def polyMod (value generator degree shifts : Nat) : Nat :=
  (List.range shifts).reverse.foldl (fun a i =>
    if a.testBit (i + degree) then a ^^^ (generator <<< i) else a) value

def formatBits (mask : Nat) : Nat :=
  let data := (1 <<< 3) ||| mask
  ((data <<< 10) ||| polyMod (data <<< 10) 0x537 10 5) ^^^ 0x5412

def versionBits (v : Nat) : Nat :=
  (v <<< 12) ||| polyMod (v <<< 12) 0x1f25 12 6

def addFormat (m : Matrix) (mask : Nat) : Matrix :=
  let n := m.side
  let f := formatBits mask
  let m := (List.range 8).foldl (fun m i => m.set (n - 1 - i) 8 (f.testBit i)) m
  let m := (List.range 6).foldl (fun m i => m.set 8 i (f.testBit i)) m
  let m := ((m.set 8 7 (f.testBit 6)).set 8 8 (f.testBit 7)).set 7 8 (f.testBit 8)
  let m := (List.range' 9 6).foldl (fun m i => m.set (14 - i) 8 (f.testBit i)) m
  let m := (List.range' 8 7).foldl (fun m i => m.set 8 (n - 15 + i) (f.testBit i)) m
  m.set 8 (n - 8) true

/-- Sets both copies of the version information, from version 7 on. -/
def addVersion (m : Matrix) (v : Nat) : Matrix :=
  if v < 7 then m
  else
    let n := m.side
    let b := versionBits v
    (List.range 18).foldl (fun m i =>
      (m.set (i / 3) (n - 11 + i % 3) (b.testBit i)).set (n - 11 + i % 3) (i / 3) (b.testBit i)) m

def functionPatterns (v mask : Nat) : Matrix :=
  let m := (empty (sideOf v)).addFinders
  let m := m.addAlignments (alignmentCentres v)
  let m := m.addTiming
  (m.addFormat mask).addVersion v

def dataPlaces (m : Matrix) : List (Nat × Nat) :=
  let n := m.side
  -- the left columns of the pairs, from the right; the timing column is skipped
  let lefts := (List.range (n / 2)).map (fun k => n - 2 - 2 * k) |>.map fun x => if x ≤ 5 then x - 1 else x
  let lefts := lefts.filter fun x => x + 1 < n
  (lefts.zipIdx.flatMap fun (x, k) =>
    let rows := if k % 2 = 0 then (List.range n).reverse else List.range n
    rows.flatMap fun y => [(x + 1, y), (x, y)]).filter fun (x, y) => !m.isSet x y

/-- Whether a mask pattern inverts the module in column `x` of row `y`. -/
def maskHolds (mask x y : Nat) : Bool :=
  match mask with
  | 0 => (y + x) % 2 = 0
  | 1 => y % 2 = 0
  | 2 => x % 3 = 0
  | 3 => (y + x) % 3 = 0
  | 4 => (y / 2 + x / 3) % 2 = 0
  | 5 => (y * x) % 2 + (y * x) % 3 = 0
  | 6 => ((y * x) % 2 + (y * x) % 3) % 2 = 0
  | _ => ((y + x) % 2 + (y * x) % 3) % 2 = 0

def placeData (m : Matrix) (mask : Nat) (bits : List Bool) : Matrix :=
  (m.dataPlaces.zip bits).foldl (fun m ((x, y), b) => m.set x y (b != maskHolds mask x y)) m

/-- The modules as dark or not, row by row; unset modules are light. -/
def modules (m : Matrix) : Array Bool := m.cells.map (·.getD false)

end Matrix

end Qr
end JuryCaptions
