import JuryCaptions.Focus.Gaze
import JuryCaptions.Jury.Juror
import JuryCaptions.Number.Format
/-!
Sectors of azimuth that put a juror in focus.

A sector is a range of bearings from the calibrated centre, closed below and
open above, with the juror seen there. Sectors are checked in order when they
are read, and the first that holds a bearing wins when classifying.
-/

namespace JuryCaptions
namespace Focus

/-- A sector as configured: a juror id as written and its bounds. -/
structure SectorSpec where
  juror : String := ""
  start : Float := 0.0
  stop : Float := 0.0
  deriving Repr, Inhabited

/-- A checked sector: a set juror and a non-empty range `[start, stop)`. -/
structure Sector where
  juror : SpeakerId
  start : Float
  stop : Float
  deriving Repr, Inhabited

namespace Sector

def ofSpec (i : Nat) (s : SectorSpec) : Except Fault Sector :=
  if !SpeakerId.isValid s.juror then
    .error ⟨.unknownJuror, "sector " ++ toString i ++ ": unknown juror id: " ++ Quote.quoted s.juror⟩
  else if s.start ≥ s.stop then
    .error (.plain ("sector " ++ toString i ++ ": empty range [" ++ FloatText.general s.start ++ ", " ++
      FloatText.general s.stop ++ ")"))
  else .ok ⟨s.juror, s.start, s.stop⟩

/-- Checks configured sectors in order; the first bad one fails them all. -/
def parse (specs : List SectorSpec) : Except Fault (List Sector) :=
  (specs.zipIdx.mapM fun (s, i) => ofSpec i s)

def holds (s : Sector) (bearing : Float) : Bool := bearing ≥ s.start && bearing < s.stop

end Sector

/-- The juror whose sector holds an azimuth's bearing from the centre, or nobody. -/
def classify (azimuth center : Float) (sectors : List Sector) : SpeakerId :=
  let rel := relative azimuth center
  match sectors.find? (·.holds rel) with
  | some s => s.juror
  | none => SpeakerId.none

end Focus
end JuryCaptions
