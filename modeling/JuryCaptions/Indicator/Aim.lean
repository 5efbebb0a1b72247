import JuryCaptions.Geometry.Vector
import JuryCaptions.Fault
import JuryCaptions.Text.Quote
/-!
Aiming and colouring the markers that point at the current speaker.
`lookAt eye target up` turns local +Z toward `target` and local Y toward `up`,
nudging forward by `1e-4` when the target lies along `up`; an offset then turns
the marker about a local axis.
-/

namespace JuryCaptions
namespace Indicator

def up : Vec3 := ⟨0.0, 1.0, 0.0⟩

/-- The orientation that points local +Z from `eye` at `target`. -/
def lookAt (eye target upAxis : Vec3) : Quat :=
  let z := target.sub eye
  let z := if z.length == 0 then ⟨0.0, 0.0, 1.0⟩ else z
  let z := z.normalize
  let x := upAxis.cross z
  let (z, x) :=
    if x.length == 0 then
      let z := if upAxis.z.abs == 1 then { z with x := z.x + 1e-4 } else { z with z := z.z + 1e-4 }
      let z := z.normalize
      (z, upAxis.cross z)
    else (z, x)
  let x := x.normalize
  let y := z.cross x
  (Quat.ofColumns x y z).normalize

/-- A local rotation axis, by number: 1 is Y, 2 is Z and any other number X. -/
structure Axis where
  code : Int
  deriving Repr, BEq, Inhabited

def Axis.vec (a : Axis) : Vec3 :=
  if a.code = 1 then ⟨0.0, 1.0, 0.0⟩
  else if a.code = 2 then ⟨0.0, 0.0, 1.0⟩
  else ⟨1.0, 0.0, 0.0⟩

/-- A corrective rotation about a local axis, in degrees. -/
structure Offset where
  axis : Axis := ⟨0⟩
  degrees : Float := 0.0
  deriving Repr, Inhabited

namespace Offset

def none : Offset := {}

def quarterTurn : Offset := { degrees := 90.0 }

def eighthBack : Offset := { degrees := -45.0 }

def parse (name : String) : Except Fault Offset :=
  if name == "quarterTurn" then .ok quarterTurn
  else if name == "eighthBack" then .ok eighthBack
  else if name == "none" || name == "" then .ok none
  else .error (.plain ("unknown indicator offset " ++ Quote.quoted name))

/-- Turns an orientation about the offset's local axis; a zero angle changes nothing. -/
def apply (o : Offset) (q : Quat) : Quat :=
  if o.degrees == 0 then q
  else (q.mul (Quat.rotation (Trig.degToRad o.degrees) o.axis.vec)).normalize

end Offset

/-- Marker colours for an active and an inactive speaker. -/
structure Colors where
  active : String
  inactive : String
  deriving Repr, BEq, Inhabited

namespace Colors

def gold : Colors := ⟨"#FF0000", "#FFD700"⟩

def black : Colors := ⟨"#FF0000", "#000000"⟩

def parse (name : String) : Except Fault Colors :=
  if name == "gold" || name == "" then .ok gold
  else if name == "black" then .ok black
  else .error (.plain ("unknown indicator colours " ++ Quote.quoted name))

def pick (c : Colors) (active : Bool) : String := if active then c.active else c.inactive

end Colors

end Indicator
end JuryCaptions
