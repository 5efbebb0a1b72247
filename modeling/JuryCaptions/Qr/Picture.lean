import JuryCaptions.Qr.Code
/-!
Pictures of a code: as terminal text and as a square image.

Both draw the code inside a light quiet zone four modules wide. The text packs
two rows of modules into one line of half blocks, a last row without a partner
paired with dark. The image maps each pixel to the module under its scaled
position, rounding down.
-/

namespace JuryCaptions
namespace Qr

def quietZone : Nat := 4

namespace Code

def width (c : Code) : Nat := c.side + 2 * quietZone

/-- Whether the module in column `x` of row `y` of the picture is dark. -/
def dark (c : Code) (x y : Nat) : Bool :=
  if quietZone ≤ x ∧ x < quietZone + c.side ∧ quietZone ≤ y ∧ y < quietZone + c.side then
    c.modules.getD ((y - quietZone) * c.side + (x - quietZone)) false
  else false

def halfBlock (upper lower : Bool) : String :=
  match upper, lower with
  | false, false => "█"
  | true, true => " "
  | true, false => "▄"
  | false, true => "▀"

def toText (c : Code) : String :=
  let w := c.width
  let pairs := (List.range (w / 2)).map fun k =>
    String.join ((List.range w).map fun x => halfBlock (c.dark x (2 * k)) (c.dark x (2 * k + 1))) ++ "\n"
  let last := if w % 2 = 1 then
      [String.join ((List.range w).map fun x => if c.dark x (w - 1) then " " else "▀") ++ "\n"]
    else []
  String.join (pairs ++ last)

/-- The number of dark pixels of the picture drawn `size` pixels wide, at
least one pixel a module. -/
def darkPixels (c : Code) (size : Nat) : Nat :=
  let w := c.width
  let size := max size w
  -- how many pixels of a line fall on each module
  let share := fun k => ((List.range size).filter fun p => p * w / size = k).length
  let shares := (List.range w).map share
  (shares.zipIdx.map fun (sy, y) =>
    sy * (shares.zipIdx.map fun (sx, x) => if c.dark x y then sx else 0).foldl (· + ·) 0).foldl (· + ·) 0

end Code

end Qr
end JuryCaptions
