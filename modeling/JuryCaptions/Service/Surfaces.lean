import JuryCaptions.Service.Captions
import JuryCaptions.Caption.Surface
import JuryCaptions.Indicator.Aim
/-!
Operations on caption visibility, presets, marker aiming and the camera rig.
-/

namespace JuryCaptions
namespace Service

def opacityOp (r : Json) : Handled Json := do
  let speaker ← Req.str r "speaker"
  let target ← Req.str r "target"
  let ambient ← Req.bool r "ambient"
  pure (match opacityFor speaker target ambient with
    | some o => answer [("opacity", floatJson o), ("changed", .bool true)]
    | none => answer [("opacity", floatJson 0.0), ("changed", .bool false)])

def quatJson (q : Quat) : Json := vecJson q.toList

def vec3Json (v : Vec3) : Json := vecJson v.toList

/-- An offset given as a preset name or as `{axis, degrees}`. -/
def offsetOf (j : Json) : Handled (Except Fault Indicator.Offset) :=
  match j with
  | .str name => .ok (Indicator.Offset.parse name)
  | .obj _ => do
    let axis ← Req.int j "axis"
    let degrees ← Req.float j "degrees"
    pure (.ok { axis := ⟨axis⟩, degrees })
  | _ => .error (fieldError "offset" "a string or an object")

def presetOp (r : Json) : Handled Json := do
  let kind ← Req.str r "kind"
  let name ← Req.str r "name"
  match kind with
  | "target_field" => pure (match TargetField.parse name with
    | .ok f => answer [("value", .str f), ("clearable", .bool (TargetField.clearable f))]
    | .error e => faultJson e)
  | "offset" => pure (match Indicator.Offset.parse name with
    | .ok o => answer [("axis", .int o.axis.code), ("degrees", floatJson o.degrees)]
    | .error e => faultJson e)
  | "colors" => pure (match Indicator.Colors.parse name with
    | .ok c => answer [("active", .str c.active), ("inactive", .str c.inactive),
        ("pick_true", .str (c.pick true)), ("pick_false", .str (c.pick false))]
    | .error e => faultJson e)
  | other => .error (unknown "preset kind" other)

def Req.vec3 (r : Json) (key : String) : Handled Vec3 := do
  let xs ← Req.floatsN r key 3
  pure (Vec3.ofList xs)

/-- A quaternion member of a request, as `x, y, z, w`. -/
def Req.quat (r : Json) (key : String) : Handled Quat := do
  let xs ← Req.floatsN r key 4
  pure (Quat.ofList xs)

/-- The orientation that aims a marker, with an offset applied to it and to a
given orientation. -/
def lookAtOp (r : Json) : Handled Json := do
  let eye ← Req.vec3 r "eye"
  let target ← Req.vec3 r "target"
  let upAxis ← if r.has "up" then Req.vec3 r "up" else pure Indicator.up
  let offset ← match r.field? "offset" with
    | none => pure (.ok Indicator.Offset.none)
    | some j => offsetOf j
  match offset with
  | .error e => pure (faultJson e)
  | .ok o =>
    let q := Indicator.lookAt eye target upAxis
    let given ← if r.has "quat" then do
        let g ← Req.quat r "quat"
        pure [("applied_to_quat", quatJson (o.apply g))]
      else pure []
    let applied := if r.has "offset" then [("applied", quatJson (o.apply q))] else []
    pure (answer ([("look_at", quatJson q)] ++ applied ++ given))

/-- Turns the camera rig about Y, keeping the yaw within `[0, 360)`. -/
def rotateYaw (yaw degrees : Float) : Float :=
  let y := Trig.fmod (yaw + degrees) 360.0
  if y < 0 then y + 360.0 else y

def rotateOp (r : Json) : Handled Json := do
  let ds ← Req.floats r "degrees"
  let (_, yaws) := ds.foldl (fun (yaw, acc) d => let y := rotateYaw yaw d; (y, acc ++ [y])) (0.0, [])
  pure (answer [("yaws", vecJson yaws)])

def surfaceOf (j : Json) : Handled Surface := do
  let id ← Req.str j "id"
  let field ← Req.str j "field"
  let ambient ← Req.bool j "ambient"
  let noElement ← Req.bool j "no_element"
  pure { id, field, ambient, hasElement := !noElement }

def surfaceStateJson (s : Surface) : Json :=
  answer [("id", .str s.id), ("field", .str s.field), ("speaker", .str s.speaker),
    ("target", .str s.target), ("ambient", .bool s.ambient),
    ("speaker_is_active", .bool s.speakerIsActive)]

def writeJson (w : OpacityWrite) : Json :=
  answer [("surface", .str w.surface), ("opacity", floatJson w.opacity)]

/-- One step on a caption set: the new set, the writes and the step's own members. -/
def captionSetStep (cs : CaptionSet) (step : Json) : Handled (CaptionSet × Json) := do
  let act ← Req.str step "do"
  let sid ← Req.str step "surface"
  let id ← Req.str step "id"
  let single (f : Surface → Surface × Option OpacityWrite) : CaptionSet × List OpacityWrite × List (String × Json) :=
    match cs.update sid f with
    | some (cs', w) => (cs', w.toList, [("found", .bool true), ("wrote", .bool w.isSome)])
    | none => (cs, [], [("found", .bool false)])
  let (cs', writes, extra) ← match act with
    | "add" => do
      let s ← surfaceOf step
      pure (cs.add s, [], [])
    | "set_target" => pure (single (·.call (.setTarget id)))
    | "clear_target" => pure (single (·.call .clearTarget))
    | "set_speaker" => pure (single (·.call (.setSpeaker id)))
    | "apply" => pure (single (·.call .apply))
    | "speaker_is_active" => pure (match cs.get? sid with
      | some s => (cs, [], [("found", .bool true), ("value", .bool s.speakerIsActive), ("speaker", .str s.speaker)])
      | none => (cs, [], [("found", .bool false)]))
    | "set_target_all" =>
      let (cs', ws) := cs.setTargetAll id
      pure (cs', ws, [])
    | "clear_target_all" => pure (cs.clearTargetAll, [], [])
    | other => .error (unknown "caption_set op" other)
  pure (cs', answer (extra ++ [("writes", .arr (writes.map writeJson)),
    ("states", .arr (cs'.surfaces.map surfaceStateJson))]))

def captionSetOp (r : Json) : Handled Json := do
  let surfaces ← (← Req.list r "surfaces").mapM surfaceOf
  let ops ← Req.list r "ops"
  let (_, outs) ← runSteps captionSetStep ⟨surfaces⟩ ops
  pure (answer [("steps", .arr outs)])

end Service
end JuryCaptions
