import JuryCaptions.Json.Decode
import JuryCaptions.Json.Write
import JuryCaptions.Dispatch.Basic
import JuryCaptions.Scene.Store
import JuryCaptions.Storage.Records
/-!
Messages between the session and the rendering host: envelopes
`{"type": T, "payload": P}`. Patches and snapshots go to the host; input comes
from it as commands. Doubles in payloads must be finite.
-/

namespace JuryCaptions
namespace Host

def vecDoc (v : Vec3) : Except String Json := do
  pure (.arr [← Json.floatDoc v.x, ← Json.floatDoc v.y, ← Json.floatDoc v.z])

/-- A scene value in a payload as the program holds it: a quaternion as its
scalar `W` and vector `V`. -/
def sceneValueDoc : SceneValue → Except String Json
  | .float x => Json.floatDoc x
  | .int n => .ok (.int n)
  | .text s => .ok (.str s)
  | .flag b => .ok (.bool b)
  | .vec v => vecDoc v
  | .quat q => do pure (.obj [("W", ← Json.floatDoc q.w), ("V", ← vecDoc q.v)])
  | .array3 xs => do pure (.arr (← xs.mapM Json.floatDoc))
  | .array4 xs => do pure (.arr (← xs.mapM Json.floatDoc))

def patchDoc (p : Patch) : Except String Json := do
  pure (.obj [("entity", .str p.entity), ("attribute", .str p.attr), ("value", ← sceneValueDoc p.value)])

def sessionDoc (s : Session) : Json :=
  .obj [("ID", .nat s.id), ("UUID", .str s.uuid), ("RenderingMethod", .int s.method.code),
    ("CaptionsFile", .str s.captionsFile), ("FocusSource", .str s.focusSource),
    ("ClientAddr", .str s.clientAddr), ("StartTime", .str s.startTime.format),
    ("EndTime", .str s.endTime.format)]

/-- The text of an envelope with an optional payload. A payload that cannot be
written fails with the message type named. -/
def envelope (type : String) (payload : Option (Except String Json)) : Except Fault String :=
  match payload with
  | none => .ok (Json.compact (.obj [("type", .str type)]))
  | some (.error e) => .error (.plain ("marshal " ++ type ++ " payload: " ++ e))
  | some (.ok p) => .ok (Json.compact (.obj [("type", .str type), ("payload", p)]))

def keyShape : Json.Shape := .record "streaming.KeyPayload" "KeyPayload" [("key", .text "string")]
def clickShape : Json.Shape :=
  .record "streaming.ClickPayload" "ClickPayload" [("speaker", .text "core.JurorID")]
def goneShape : Json.Shape :=
  .record "streaming.GonePayload" "GonePayload" [("speaker", .text "core.JurorID")]
def positionShape : Json.Shape :=
  .record "streaming.PositionPayload" "PositionPayload"
    [("speaker", .text "core.JurorID"), ("local", .fixed 3 "[3]float64" .double),
     ("parent", .fixed 3 "[3]float64" .double)]
def cameraShape : Json.Shape :=
  .record "streaming.CameraPayload" "CameraPayload" [("position", .fixed 3 "[3]float64" .double)]

def keyCommand : String := ":KEY:"
def clickCommand : String := ":CLICK:"
def leaveCommand : String := ":LEAVE:"
def positionCommand : String := ":POSITION:"
def cameraCommand : String := ":CAMERA:"
def goneCommand : String := ":GONE:"

def floatArgs (v : Json.Value) : List String := v.items.map fun x => FloatText.general x.float

def toCommand (type : String) (payload : String) : Except Fault Dispatch.Event :=
  let decode (what : String) (shape : Json.Shape) : Except Fault Json.Value :=
    match Json.decodeText payload shape with
    | .ok v => .ok v
    | .error e => .error (.plain ("decode " ++ what ++ ": " ++ e.message))
  match type with
  | "key" => do
    let v ← decode "key" keyShape
    pure ⟨keyCommand, [(v.get "key").str]⟩
  | "click" => do
    let v ← decode "click" clickShape
    pure ⟨clickCommand, [(v.get "speaker").str]⟩
  | "leave" => pure ⟨leaveCommand, []⟩
  | "position" => do
    let v ← decode "position" positionShape
    pure ⟨positionCommand, (v.get "speaker").str :: (floatArgs (v.get "local") ++ floatArgs (v.get "parent"))⟩
  | "gone" => do
    let v ← decode "gone" goneShape
    pure ⟨goneCommand, [(v.get "speaker").str]⟩
  | "camera" => do
    let v ← decode "camera" cameraShape
    pure ⟨cameraCommand, floatArgs (v.get "position")⟩
  | other => .error (.plain ("unknown message type " ++ Quote.quoted other))

end Host
end JuryCaptions
