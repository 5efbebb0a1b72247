import JuryCaptions.Service.Host
import JuryCaptions.Viewing.Viewer
import JuryCaptions.Viewing.Serve
/-!
Operations on viewing sessions: a bare session of entities and behaviours, a
whole viewer driven by host input, captions and frames, and a viewer served
until its frame loop stops.
-/

namespace JuryCaptions
namespace Service

open Viewing

def targetJson (t : TargetChange) : Json :=
  answer [("target", .str t.target), ("input", .str t.input)]

/-- What a session sent out during a step: its patches and its warnings and errors. -/
def sentJson (w : World) : List (String × Json) :=
  [("patches", .arr (w.patches.map patchJson)),
   ("logs", .arr ((LogRecord.atLeast .warn w.logs).map logJson))]

def rigJson (r : Rig) (frames : Nat) : List (String × Json) :=
  [("yaw", floatJson r.yaw), ("camera", vec3Json r.camera), ("anchor", vec3Json r.anchor),
   ("frames", .nat frames)]

/-- The data a step delivers: a caption, a change of speaker or target, or text. -/
def Req.delivery (r : Json) : Handled Delivery := do
  if r.has "caption" then
    let c ← Req.caption r "caption"
    pure (.caption c)
  else if r.has "speaker" || r.has "target" then
    let speaker ← Req.str r "speaker"
    let target ← Req.str r "target"
    pure (.change (if r.has "speaker" then some speaker else none)
      (if r.has "target" then some target else none))
  else
    let text ← Req.str r "data"
    pure (.note text)

def Req.frameLength (r : Json) : Handled Duration := do
  let ms ← Req.int r "dt_ms"
  pure (ms * 1000000)

/-- The settings of a viewer given in a request; members given replace the defaults. -/
def viewerConfigOf (c : Json) : Handled ViewerConfig := do
  let d : ViewerConfig := {}
  let fps ← Req.intD c "fps" d.fps
  let indicatorOffset ← Req.strD c "indicator_offset" d.indicatorOffset
  let targetField ← Req.strD c "target_field" d.targetField
  let colors ← Req.strD c "colors" d.colors
  let anchorHeight ← Req.floatD c "anchor_height" d.anchorHeight
  let rotateStep ← Req.floatD c "rotate_step" d.rotateStep
  let keys ← if c.has "keys" then do
      let raw ← Req.obj c "keys"
      Req.table raw "keys"
    else pure d.keys
  let speakers ← if c.has "speakers" then Req.strs c "speakers" else pure d.speakers
  let sendQueueSize ← Req.intD c "send_queue_size" d.sendQueueSize
  pure
    { fps := fps
      indicatorOffset := indicatorOffset
      targetField := targetField
      colors := colors
      anchorHeight := anchorHeight
      rotateStep := rotateStep
      keys := keys
      speakers := speakers
      sendQueueSize := sendQueueSize }

def replyJson : Reply → List (String × Json)
  | .done (.ok j) => [("result", j)]
  | .done (.error f) => [("error", faultJson f)]
  | .queued none => [("result", .str "queued")]
  | .queued (some f) => [("result", .str "queued"), ("async_error", .str f.message)]

def viewerStateJson (v : Viewer) : Json :=
  let w := v.world
  answer (rigJson w.rig v.loop.frames ++ [("active", .str w.registry.active),
    ("surfaces", .arr (w.captions.surfaces.map surfaceStateJson)),
    ("speakers", registryAllJson w.registry)])

/-- One step on a viewer, with what it reports beyond what every step reports. -/
def viewerAct (v : Viewer) (step : Json) : Handled (Viewer × List (String × Json)) := do
  let act ← Req.str step "do"
  match act with
  | "dispatch" =>
    let command ← Req.str step "command"
    let args ← Req.strs step "args"
    let (v, reply) := v.dispatch ⟨command, args⟩
    pure (v, replyJson reply)
  | "host" =>
    let type ← Req.str step "type"
    let payload ← Req.payloadText step
    match Host.toCommand type payload with
    | .error f => pure (v, [("error", faultJson f)])
    | .ok e =>
      let (v, reply) := v.dispatch e
      pure (v, ("event", eventJson e) :: replyJson reply)
  | "caption" =>
    let c ← Req.caption step "caption"
    pure (v.showCaption c, [])
  | "update" =>
    let entity ← Req.str step "entity"
    let d ← Req.delivery step
    pure (match v.deliver entity d with
      | .ok v => (v, [])
      | .error f => (v, [("error", faultJson f)]))
  | "step" =>
    let dt ← Req.frameLength step
    pure (v.step dt, [])
  | "snapshot" => pure (v, [("snapshot", .arr (v.world.store.snapshot.map patchJson))])
  | "run" =>
    let fps ← Req.int step "fps"
    match Viewer.checkRate fps with
    | .error f => pure (v, [("error", faultJson f)])
    | .ok () => .error (badInput "the frame loop runs only with a rate that is not positive")
  | other => .error (unknown "viewer op" other)

def setupFailure : SetupError → Json
  | .keys (.duplicate ..) => answer [("error", .str "error")]
  | .keys e => faultJson e.toFault
  | .fault f => faultJson f

def viewerStep (v : Viewer) (step : Json) : Handled (Viewer × Json) := do
  let (v, extra) ← viewerAct { v with world := v.world.flush } step
  let w := v.world
  pure (v, answer (extra ++ sentJson w ++ [("targets", .arr (w.targets.map targetJson)),
    ("state", viewerStateJson v)]))

def viewerOp (r : Json) : Handled Json := do
  let cfg ← Req.obj r "config"
  let cfg ← viewerConfigOf cfg
  let noRecorder ← Req.bool r "no_recorder"
  let ops ← Req.list r "ops"
  match Viewer.build cfg (!noRecorder) with
  | .error e => pure (setupFailure e)
  | .ok v =>
    let initial := v.world.store.snapshot
    let (_, steps) ← runSteps viewerStep v ops
    pure (answer [("initial", .arr (initial.map patchJson)), ("steps", .arr steps)])

def recorderCallJson : RecorderCall → Json
  | .start m source => .obj [("start", .obj [("method", .str m.name), ("focus_source", .str source),
      ("captions_file", .str ""), ("uuid_len", .nat 36)])]
  | .finish => .str "end"

def failureOf (r : Json) (key : String) : Handled (Option String) := do
  let s ← Req.str r key
  pure (if s.isEmpty then none else some s)

/-- Serves a viewer on a listener that never accepts, with a frame rate that
stops the frame loop at once, then dispatches one more command. -/
def viewerServeOp (r : Json) : Handled Json := do
  let fps ← Req.int r "fps"
  if fps > 0 then throw (badInput "viewer_serve only takes fps <= 0")
  let cfg ← Req.obj r "config"
  let cfg ← viewerConfigOf cfg
  let method ← Req.intD r "method" 1
  let noRecorder ← Req.bool r "no_recorder"
  let startFailure ← failureOf r "start_error"
  let endFailure ← failureOf r "end_error"
  let _ ← Req.int r "sample_ns"
  let _ ← Req.captions r "captions"
  match Viewer.build { cfg with fps := fps } (!noRecorder) with
  | .error e => pure (setupFailure e)
  | .ok v =>
    let recorder : Option ServeRecorder :=
      if noRecorder then none else some { method := ⟨method⟩, startFailure, endFailure }
    match v.serve recorder with
    | none => throw (badInput "viewer_serve only takes fps <= 0")
    | some served =>
      let after : Option Fault :=
        if served.closed then some ⟨.closed, "dispatcher closed"⟩
        else match (v.dispatch ⟨":LEAVE:", []⟩).2 with
          | .done (.error f) => some f
          | _ => none
      pure (answer ([("calls", .arr (served.calls.map recorderCallJson))] ++
        Json.optField "error" (served.failure.map faultJson) ++
        Json.optField "dispatch_after" (after.map faultJson)))

/-- A behaviour given in a request, for the entity `entity`. -/
def behaviourOf (entity : String) (j : Json) : Handled Behaviour := do
  let kind ← Req.str j "kind"
  match kind with
  | "caption" =>
    let surface ← Req.str j "surface"
    pure (.caption (if j.has "surface" then some surface else none))
  | "indicator" =>
    let isNil ← Req.bool j "nil"
    let surface ← Req.str j "surface"
    let follow ← Req.str j "follow"
    let offsetName ← Req.strD j "offset" "none"
    let colorsName ← Req.strD j "colors" "gold"
    let offset ← match Indicator.Offset.parse offsetName with
      | .ok o => pure o
      | .error f => .error (badInput f.message)
    let colors ← match Indicator.Colors.parse colorsName with
      | .ok c => pure c
      | .error f => .error (badInput f.message)
    let source : MarkerSource := if j.has "follow" then .follow follow true else .surface surface
    pure (.indicator entity source (if isNil then none else some { offset := offset, colors := colors }))
  | "stay_below" =>
    let height ← Req.float j "height"
    let anchor ← Req.bool j "anchor"
    let noElement ← Req.bool j "no_element"
    pure (.stayBelow (if noElement then none else some entity) height anchor)
  | "rotate_qe" =>
    let noElement ← Req.bool j "no_element"
    pure (.turnWithRig (if noElement then none else some entity))
  | "counter" =>
    let name ← Req.str j "name"
    let failure ← Req.str j "error"
    pure (.probe name (if failure == "" then none else some failure))
  | other => .error (unknown "behavior kind" other)

/-- One step on a bare session, with what it reports beyond what every step reports. -/
def sessionAct (st : Loop × World) (step : Json) : Handled ((Loop × World) × List (String × Json)) := do
  let (l, w) := st
  let act ← Req.str step "do"
  match act with
  | "add" =>
    let id ← Req.str step "id"
    let bs ← Req.list step "behaviors"
    let bs ← bs.mapM (behaviourOf id)
    let (l, w, failure) := l.add ⟨id, bs⟩ w
    pure ((l, w), Json.optField "error" (failure.map faultJson))
  | "step" =>
    let dt ← Req.frameLength step
    pure (l.step dt w, [])
  | "update" =>
    let entity ← Req.str step "entity"
    let d ← Req.delivery step
    pure (match l.deliver entity d w with
      | .ok w => ((l, w), [])
      | .error f => ((l, w), [("error", faultJson f)]))
  | "broadcast" =>
    let d ← Req.delivery step
    pure ((l, l.broadcast d w), [])
  | "camera" =>
    let p ← Req.vec3 step "position"
    pure ((l, { w with rig := { w.rig with camera := p } }), [])
  | "anchor" =>
    let p ← Req.vec3 step "position"
    pure ((l, { w with rig := { w.rig with anchor := p } }), [])
  | "rotate" =>
    let d ← Req.float step "degrees"
    pure ((l, { w with rig := { w.rig with yaw := turn w.rig.yaw d } }), [])
  | "set_target_all" =>
    let id ← Req.str step "id"
    let (cs, writes) := w.captions.setTargetAll id
    pure ((l, { w with captions := cs }.writeOpacities writes), [])
  | "entity" =>
    let id ← Req.str step "id"
    pure ((l, w), [("found", .bool (l.find? id).isSome)])
  | other =>
    match registryStep? w.registry other step with
    | some h => do
      let (reg, extra) ← h
      pure ((l, { w with registry := reg }), extra)
    | none => .error (unknown "session op" other)

def sessionStep (st : Loop × World) (step : Json) : Handled ((Loop × World) × Json) := do
  let ((l, w), extra) ← sessionAct (st.1, st.2.flush) step
  pure ((l, w), answer (extra ++ sentJson w ++ [("calls", Json.strs w.calls),
    ("state", answer (rigJson w.rig l.frames))]))

def sessionSurfaceOf (j : Json) : Handled Surface := do
  let id ← Req.str j "id"
  let field ← Req.str j "field"
  let ambient ← Req.bool j "ambient"
  pure { id := id, field := field, ambient := ambient }

def sessionOp (r : Json) : Handled Json := do
  let surfaces ← Req.list r "surfaces"
  let surfaces ← surfaces.mapM sessionSurfaceOf
  let ids ← Req.strs r "ids"
  let ops ← Req.list r "ops"
  let w : World := { registry := Registry.ofIds ids, captions := { surfaces := surfaces } }
  let (_, steps) ← runSteps sessionStep ({}, w) ops
  pure (answer [("steps", .arr steps)])

end Service
end JuryCaptions
