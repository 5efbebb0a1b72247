import JuryCaptions.Service.Surfaces
import JuryCaptions.Scene.Store
import JuryCaptions.Speaker.Registry
import JuryCaptions.Indicator.Marker
/-!
Operations on the scene store, the speaker registry and marker updaters.
-/

namespace JuryCaptions
namespace Service

def sceneValueOf (j : Json) : Handled SceneValue :=
  match j with
  | .obj [("float", _)] => do pure (.float (← Req.float j "float"))
  | .obj [("int", _)] => do pure (.int (← Req.int j "int"))
  | .obj [("string", _)] => do pure (.text (← Req.str j "string"))
  | .obj [("bool", _)] => do pure (.flag (← Req.bool j "bool"))
  | .obj [("vec3", _)] => do pure (.vec (← Req.vec3 j "vec3"))
  | .obj [("quat", _)] => do pure (.quat (← Req.quat j "quat"))
  | _ => .error (badInput "a scene value must be one of float, int, string, bool, vec3, quat")

def sceneValueJson (v : SceneValue) : Json :=
  let (kind, value) : String × Json := match v with
    | .float x => ("float", floatJson x)
    | .int n => ("int", .int n)
    | .text s => ("string", .str s)
    | .flag b => ("bool", .bool b)
    | .vec v => ("vec3", vec3Json v)
    | .quat q => ("quat", quatJson q)
    | .array3 xs => ("array3", vecJson xs)
    | .array4 xs => ("array4", vecJson xs)
  answer [("type", .str kind), ("value", value)]

def patchJson (p : Patch) : Json :=
  answer [("entity", .str p.entity), ("attribute", .str p.attr), ("value", sceneValueJson p.value)]

/-- A scene store with the patches each sink received. -/
structure SceneRun where
  store : SceneStore := {}
  secondSink : Bool := false

def sceneStep (st : SceneRun) (step : Json) : Handled (SceneRun × Json) := do
  let act ← Req.str step "do"
  let entity ← Req.str step "entity"
  let write (attr : String) (v : SceneValue) : SceneRun × List Patch :=
    let (s, p) := st.store.set entity attr v
    ({ st with store := s }, p.toList)
  let (st', patches, extra) ← match act with
    | "set" => do
      let attr ← Req.str step "attr"
      let v ← sceneValueOf (← Req.obj step "value")
      let (st', ps) := write attr v
      pure (st', ps, [("changed", Json.bool !ps.isEmpty)])
    | "get" => do
      let attr ← Req.str step "attr"
      pure (match st.store.get? entity attr with
        | some v => (st, [], [("ok", Json.bool true), ("value", sceneValueJson v)])
        | none => (st, [], [("ok", Json.bool false)]))
    | "snapshot" => pure (st, [], [("snapshot", Json.arr (st.store.snapshot.map patchJson))])
    | "text_opacity" => do
      let (st', ps) := write Attr.opacity (.float (← Req.float step "value"))
      pure (st', ps, [])
    | "marker_orientation" => do
      let (st', ps) := write Attr.rotation (.quat (← Req.quat step "quat"))
      pure (st', ps, [])
    | "marker_color" => do
      let (st', ps) := write Attr.color (.text (← Req.str step "color"))
      pure (st', ps, [])
    | "anchored_position" => do
      let (st', ps) := write Attr.position (.vec (← Req.vec3 step "position"))
      pure (st', ps, [])
    | "anchored_yaw" => do
      let (st', ps) := write Attr.yaw (.float (← Req.float step "value"))
      pure (st', ps, [])
    | "add_sink" => pure ({ st with secondSink := true }, [], [])
    | other => .error (unknown "scene op" other)
  let second := if st.secondSink && !patches.isEmpty then [("second_sink", Json.arr (patches.map patchJson))] else []
  pure (st', answer (extra ++ [("patches", .arr (patches.map patchJson))] ++ second))

def sceneOp (r : Json) : Handled Json := do
  let ops ← Req.list r "ops"
  let (_, outs) ← runSteps sceneStep {} ops
  pure (answer [("steps", .arr outs)])

def speakerEntryJson (r : Registry) (e : SpeakerEntry) : Json :=
  answer [("id", .str e.id), ("position", vec3Json e.position), ("active", .bool (r.active == e.id)),
    ("resolved", .bool e.resolved)]

def registryAllJson (r : Registry) : Json := .arr (r.entries.map (speakerEntryJson r))

def registryStep? (reg : Registry) (act : String) (step : Json) :
    Option (Handled (Registry × List (String × Json))) :=
  match act with
  | "update" => some do
    let id ← Req.str step "id"
    pure (reg.update id (← Req.vec3 step "local") (← Req.vec3 step "parent"), [])
  | "set_position" => some do
    let id ← Req.str step "id"
    pure (reg.setPosition id (← Req.vec3 step "position"), [])
  | "forget" => some do pure (reg.forget (← Req.str step "id"), [])
  | "set_active" => some do pure (reg.setActive (← Req.str step "id"), [])
  | "clear_active" => some (pure (reg.clearActive, []))
  | "resolve" => some do
    let id ← Req.str step "id"
    pure (match reg.resolve id with
      | some p => (reg, [("position", vec3Json p), ("ok", .bool true)])
      | none => (reg, [("position", vec3Json Vec3.zero), ("ok", .bool false)]))
  | "get" => some do
    let id ← Req.str step "id"
    let view := (reg.get? id).getD ⟨"", Vec3.zero, false⟩
    pure (reg, [("speaker", answer [("id", .str view.id), ("position", vec3Json view.position),
      ("active", .bool view.active)]), ("ok", .bool (reg.get? id).isSome)])
  | "len" => some (pure (reg, [("len", .nat reg.size)]))
  | "active" => some (pure (reg, [("active", .str reg.active)]))
  | _ => none

def registryOp (r : Json) : Handled Json := do
  let ids ← Req.strs r "ids"
  let ops ← Req.list r "ops"
  let step (reg : Registry) (s : Json) : Handled (Registry × Json) := do
    let act ← Req.str s "do"
    match registryStep? reg act s with
    | some h => do
      let (reg', extra) ← h
      pure (reg', answer (extra ++ [("all", registryAllJson reg'), ("active_now", .str reg'.active)]))
    | none => .error (unknown "registry op" act)
  let (final, outs) ← runSteps step (Registry.ofIds ids) ops
  pure (answer [("initial", registryAllJson final), ("steps", .arr outs)])

def logJson (l : LogRecord) : Json :=
  answer [("level", .str l.level.name), ("msg", .str l.msg),
    ("attrs", .arr (l.attrs.map fun (k, v) => .arr [.str k, v]))]

def markerWriteJson : Indicator.MarkerWrite → Json
  | .rotation q => answer [("rotation", quatJson q)]
  | .color c => answer [("color", .str c)]

/-- Where a marker under test takes its speaker from. -/
inductive TestSource where
  | manual (speaker : SpeakerId) (active : Bool)
  | follow (speaker : SpeakerId) (withRegistry : Bool)

def TestSource.view (s : TestSource) (reg : Registry) : SpeakerId × Bool :=
  match s with
  | .manual id a => (id, a)
  | .follow id withRegistry => (id, withRegistry && reg.active == id)

def Req.offset (r : Json) (key : String) : Handled (Except Fault Indicator.Offset) :=
  match r.field? key with
  | none => .ok (.ok Indicator.Offset.none)
  | some j => offsetOf j

def updaterOp (r : Json) : Handled Json := do
  let ids ← Req.strs r "ids"
  let src ← Req.obj r "source"
  let kind ← Req.strD src "kind" "manual"
  let sid ← Req.str src "id"
  let sactive ← Req.bool src "active"
  let source ← match kind with
    | "manual" | "" => pure (TestSource.manual sid sactive)
    | "follow" => pure (TestSource.follow sid true)
    | "follow_nil" => pure (TestSource.follow sid false)
    | other => .error (unknown "source kind" other)
  let offset ← Req.offset r "offset"
  let colorsName ← Req.str r "colors"
  match offset, Indicator.Colors.parse colorsName with
  | .error e, _ => pure (faultJson e)
  | _, .error e => pure (faultJson e)
  | .ok offset, .ok colors =>
    let ops ← Req.list r "ops"
    let step (st : Indicator.Updater × Registry × TestSource) (s : Json) :
        Handled ((Indicator.Updater × Registry × TestSource) × Json) := do
      let (u, reg, source) := st
      let act ← Req.str s "do"
      let (u', reg', source', writes, logs, extra) ← match act with
        | "tick" => do
          let anchor ← Req.vec3 s "anchor"
          let (speaker, active) := source.view reg
          let t := u.tick speaker active anchor reg.resolve
          pure (t.updater, reg, source, t.writes, t.logs, [("wrote", Json.bool t.wrote)])
        | "set_source" => do
          let id ← Req.str s "id"
          let a ← Req.bool s "active"
          pure (u, reg, TestSource.manual id a, [], [], [])
        | _ =>
          match registryStep? reg act s with
          | some h => do
            let (reg', extra) ← h
            pure (u, reg', source, [], [], extra)
          | none => .error (unknown "updater op" act)
      let (speaker, active) := source'.view reg'
      pure ((u', reg', source'), answer (extra ++ [("writes", .arr (writes.map markerWriteJson)),
        ("logs", .arr (logs.map logJson)),
        ("source", answer [("speaker", .str speaker), ("active", .bool active)])]))
    let (_, outs) ← runSteps step ({ offset, colors }, Registry.ofIds ids, source) ops
    pure (answer [("steps", .arr outs)])

end Service
end JuryCaptions
