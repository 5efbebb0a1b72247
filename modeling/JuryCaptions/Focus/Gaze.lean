import JuryCaptions.Geometry.Trig
import JuryCaptions.Time.Duration
/-!
Where the viewer's head points, and where that lands on the display. Relative
azimuths fold into `(-180, 180]`; an angle maps to the pixel where its tangent
meets the display, five inches off and 3840 pixels wide, or off-screen.
-/

namespace JuryCaptions
namespace Focus

def halfFieldOfView : Float := 20.0

def inchesFromScreen : Float := 5.0

def pixelsPerInch : Float := 253.93

/-- The display's width in inches: 3840 pixels at 253.93 per inch, the quotient
rounded once. -/
def screenInchWidth : Float := 15.122277793092584

def offScreen : Int := -3000

/-- An azimuth relative to a centre, folded into `(-180, 180]`; not a number when
either is not finite. -/
def relative (azimuth center : Float) : Float :=
  let d := Trig.fmod (azimuth - center) 360.0
  if d ≤ -180.0 then d + 360.0
  else if d > 180.0 then d - 360.0
  else d

/-- The display pixel of an angle in radians, where `π` is straight ahead, or
`offScreen`. -/
def angleToPixel (angle : Float) : Int :=
  let angle := angle - Trig.pi
  let adjusted := Trig.atan angle * inchesFromScreen + screenInchWidth / 2.0
  if adjusted < 0.0 || adjusted > screenInchWidth then offScreen
  else Duration.truncFloat (adjusted * pixelsPerInch)

/-- Whether a bearing in degrees from the viewing direction is in the field of view. -/
def inView (bearing : Float) : Bool :=
  (relative bearing 0.0).abs ≤ halfFieldOfView

/-- Where a smoothed head direction lands: its azimuth, its bearing from the
centre, its display pixel and whether it is in view. -/
structure Gaze where
  azimuth : Float := 0.0
  relative : Float := 0.0
  pixel : Int := 0
  inView : Bool := false
  deriving Repr, Inhabited

def Gaze.at (azimuth center : Float) : Gaze :=
  let rel := Focus.relative azimuth center
  { azimuth := azimuth, relative := rel,
    pixel := angleToPixel (rel * Trig.pi / 180.0 + Trig.pi), inView := Focus.inView rel }

end Focus
end JuryCaptions
