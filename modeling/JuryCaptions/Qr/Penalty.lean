/-!
The penalty of a module square, which picks its mask: runs of six or more,
two-by-two blocks, finder-like stretches and the dark modules' distance from
half, scored as the format prescribes.
-/

namespace JuryCaptions
namespace Qr
namespace Penalty

/-- The module in column `x` of row `y` of a square of side `n`. -/
def at? (cells : Array Bool) (n x y : Nat) : Bool := cells.getD (y * n + x) false

/-- The lines of a square: every row, then every column, as module lists. -/
def lines (cells : Array Bool) (n : Nat) : List (List Bool) :=
  ((List.range n).map fun y => (List.range n).map fun x => at? cells n x y) ++
  ((List.range n).map fun x => (List.range n).map fun y => at? cells n x y)

def runLengths : List Bool → List Nat
  | [] => []
  | b :: rest =>
    match runLengths rest with
    | k :: more => if rest.head? = some b then (k + 1) :: more else 1 :: k :: more
    | [] => [1]

def runs (ls : List (List Bool)) : Nat :=
  (ls.map fun l => ((runLengths l).map fun k => if k ≥ 6 then k - 2 else 0).foldl (· + ·) 0).foldl (· + ·) 0

def blocks (cells : Array Bool) (n : Nat) : Nat :=
  3 * ((List.range' 1 (n - 1)).map fun y => ((List.range' 1 (n - 1)).filter fun x =>
    let c := at? cells n x y
    c == at? cells n (x - 1) y && c == at? cells n x (y - 1) && c == at? cells n (x - 1) (y - 1)).length).foldl (· + ·) 0

def finderLike (line : List Bool) : Nat :=
  let last := line.length - 1
  (line.zipIdx.foldl (fun (acc : Nat × Nat) (b, i) =>
    let window := ((acc.1 <<< 1) ||| (if b then 1 else 0)) &&& 0x7ff
    if window = 0x05d ∨ window = 0x5d0 then (0xff, acc.2 + 40)
    else if i = last ∧ window &&& 0x7f = 0x5d then (0xff, acc.2 + 40)
    else (window, acc.2)) (0, 0)).2

def balance (cells : Array Bool) (n : Nat) : Nat :=
  let total := n * n
  let dark := (cells.toList.filter id).length
  let half := total / 2
  let distance := if dark ≥ half then dark - half else half - dark
  10 * (distance / (total / 20))

def score (cells : Array Bool) (n : Nat) : Nat :=
  let ls := lines cells n
  runs ls + blocks cells n + (ls.map finderLike).foldl (· + ·) 0 + balance cells n

end Penalty
end Qr
end JuryCaptions
