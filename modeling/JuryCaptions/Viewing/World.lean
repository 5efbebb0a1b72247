import JuryCaptions.Caption.Surface
import JuryCaptions.Speaker.Registry
import JuryCaptions.Host.Message
import JuryCaptions.Geometry.Trig
/-!
The state of one viewing session and what it has done to the outside; bridged
to a host, a patch that cannot be written is logged and not sent.
-/

namespace JuryCaptions
namespace Viewing

/-- The camera rig: the viewer's head, the indicator anchor and the turn about Y
in degrees, kept in `[0, 360)`. -/
structure Rig where
  camera : Vec3 := Vec3.zero
  anchor : Vec3 := Vec3.zero
  yaw : Float := 0.0
  deriving Repr, Inhabited

/-- A turn of `yaw` by `degrees`, folded into `[0, 360)`. -/
def turn (yaw degrees : Float) : Float :=
  let y := Trig.fmod (yaw + degrees) 360.0
  if y < 0.0 then y + 360.0 else y

/-- A change of caption target and the input that made it. -/
structure TargetChange where
  target : SpeakerId
  input : String
  deriving Repr, Inhabited

/-- The session state and what it has sent out so far. -/
structure World where
  store : SceneStore := {}
  registry : Registry := {}
  captions : CaptionSet := {}
  rig : Rig := {}
  /-- Whether patches are also written as envelopes for a rendering host. -/
  bridged : Bool := false
  /-- Whether target changes are recorded. -/
  recording : Bool := false
  patches : List Patch := []
  logs : List LogRecord := []
  calls : List String := []
  targets : List TargetChange := []
  deriving Inhabited

namespace World

def log (w : World) (r : LogRecord) : World := { w with logs := w.logs ++ [r] }

def logAll (w : World) (rs : List LogRecord) : World := { w with logs := w.logs ++ rs }

def patchFailure (p : Patch) : Option String :=
  match Host.envelope "patch" (some (Host.patchDoc p)) with
  | .ok _ => none
  | .error f => some f.message

/-- Writes an attribute: a changed value is patched, and bridged when bridging. -/
def write (w : World) (entity attr : String) (v : SceneValue) : World :=
  match w.store.set entity attr v with
  | (store, none) => { w with store }
  | (store, some p) =>
    let w := { w with store }
    let w := if w.bridged then
        match patchFailure p with
        | some e => w.log ⟨.error, "Failed to encode patch", [("entity", .str p.entity), ("error", .str e)]⟩
        | none => w
      else w
    { w with patches := w.patches ++ [p] }

def writeOpacities (w : World) (ws : List OpacityWrite) : World :=
  ws.foldl (fun w o => w.write o.surface Attr.opacity (.float o.opacity)) w

def onSurface (w : World) (id : String) (f : Surface → Surface × Option OpacityWrite) : World :=
  match w.captions.update id f with
  | some (cs, o) => { w with captions := cs }.writeOpacities o.toList
  | none => w

def noteTarget (w : World) (target : SpeakerId) (input : String) : World :=
  if w.recording then { w with targets := w.targets ++ [⟨target, input⟩] } else w

def flush (w : World) : World := { w with patches := [], logs := [], calls := [], targets := [] }

end World

end Viewing
end JuryCaptions
