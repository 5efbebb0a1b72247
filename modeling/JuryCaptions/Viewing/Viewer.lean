import JuryCaptions.Viewing.Controller
/-!
A headless viewing session, assembled from its settings: two caption surfaces,
a HUD anchor that runs first, an indicator and a marker per speaker. Settings
are checked in order: target field, offset, colours, keys, speakers.
-/

namespace JuryCaptions
namespace Viewing

structure ViewerConfig where
  fps : Int := 60
  indicatorOffset : String := "quarterTurn"
  targetField : String := TargetField.active
  colors : String := "gold"
  anchorHeight : Float := 0.7
  rotateStep : Float := 5.0
  keys : List (String × String) := KeyMap.default.bindings
  speakers : List String := Juror.all.map Juror.id
  sendQueueSize : Int := 256
  deriving Inhabited

def captionEntity : String := "caption"

def ambientEntity : String := "ambientCaption"

def indicatorEntity : String := "indicator"

def anchorEntity : String := "anchor"

def markerOf (id : SpeakerId) : String := indicatorEntity ++ "-" ++ id

inductive SetupError where
  | fault (f : Fault)
  | keys (e : KeyMapError)

/-- A viewing session: its state, its frame loop, its input and its frame rate. -/
structure Viewer where
  world : World
  loop : Loop
  controller : Controller
  fps : Int
  deriving Inhabited

namespace Viewer

def addAll (l : Loop) (w : World) : List Entity → Except Fault (Loop × World)
  | [] => .ok (l, w)
  | e :: es =>
    match l.add e w with
    | (_, _, some f) => .error f
    | (l, w, none) => addAll l w es

def build (cfg : ViewerConfig) (recording : Bool) : Except SetupError Viewer := do
  let field ← (TargetField.parse cfg.targetField).mapError .fault
  let offset ← (Indicator.Offset.parse cfg.indicatorOffset).mapError .fault
  let colors ← (Indicator.Colors.parse cfg.colors).mapError .fault
  let keys ← (KeyMap.ofTable cfg.keys).mapError .keys
  let ids ← (cfg.speakers.mapM SpeakerId.parse).mapError fun f => .fault (f.context "viewer speakers")
  let primary : Surface := { id := captionEntity, field := field, ambient := false }
  let ambient : Surface := { id := ambientEntity, field := field, ambient := true }
  let w : World :=
    { registry := Registry.ofIds ids
      captions := { surfaces := [primary, ambient] }
      bridged := true
      recording := recording }
  let updater : Indicator.Updater := { offset, colors }
  let entities : List Entity :=
    [⟨anchorEntity, [.stayBelow (some anchorEntity) cfg.anchorHeight true, .turnWithRig (some anchorEntity)]⟩,
     ⟨captionEntity, [.caption (some captionEntity)]⟩,
     ⟨ambientEntity, [.caption (some ambientEntity)]⟩,
     ⟨indicatorEntity, [.indicator indicatorEntity (.surface captionEntity) (some updater)]⟩] ++
    ids.map fun id => ⟨markerOf id, [.indicator (markerOf id) (.follow id true) (some updater)]⟩
  let (loop, w) ← (addAll {} w entities).mapError .fault
  pure { world := w, loop, controller := ⟨keys, cfg.rotateStep⟩, fps := cfg.fps }

def dispatch (v : Viewer) (e : Dispatch.Event) : Viewer × Reply :=
  let (w, r) := v.controller.handle e v.world
  ({ v with world := w }, r)

def showCaption (v : Viewer) (c : Caption) : Viewer :=
  { v with world := v.loop.broadcast (.caption c) v.world }

def deliver (v : Viewer) (id : String) (d : Delivery) : Except Fault Viewer := do
  let w ← v.loop.deliver id d v.world
  pure { v with world := w }

def step (v : Viewer) (dt : Duration) : Viewer :=
  let (l, w) := v.loop.step dt v.world
  { v with loop := l, world := w }

def checkRate (fps : Int) : Except Fault Unit :=
  if fps ≤ 0 then .error (.plain ("invalid frame rate " ++ toString fps)) else .ok ()

end Viewer

end Viewing
end JuryCaptions
