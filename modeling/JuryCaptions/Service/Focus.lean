import JuryCaptions.Service.Captions
import JuryCaptions.Focus.Orientation
import JuryCaptions.Focus.Mock
import JuryCaptions.Focus.Serial
import JuryCaptions.Focus.Tracker
import JuryCaptions.Host.Message
/-!
Operations on focus: bearings, sectors, gazes, device codes, the moving window,
orientation streams, the tracker and the choice of focus source.
-/

namespace JuryCaptions
namespace Service

open Focus

def relativeOp (r : Json) : Handled Json := do
  let az ← Req.float r "azimuth"
  let c ← Req.float r "center"
  pure (answer [("value", floatJson (relative az c))])

def sectorSpecOf (j : Json) : Handled SectorSpec := do
  let juror ← Req.str j "juror"
  let start ← Req.float j "from"
  let stop ← Req.float j "to"
  pure { juror, start, stop }

def Req.sectors (r : Json) (key : String) : Handled (List SectorSpec) := do
  let xs ← Req.list r key
  xs.mapM sectorSpecOf

def classifyOp (r : Json) : Handled Json := do
  let specs ← Req.sectors r "sectors"
  let c ← Req.float r "center"
  let azs ← Req.floats r "azimuths"
  pure (match Sector.parse specs with
    | .error e => faultJson e
    | .ok sectors => answer [("jurors", .arr (azs.map fun a => .str (classify a c sectors)))])

def gazeJson (g : Gaze) : Json :=
  .obj [("azimuth", floatJson g.azimuth), ("relative", floatJson g.relative), ("pixel", .int g.pixel),
    ("in_view", .bool g.inView)]

def gazeOp (r : Json) : Handled Json := do
  let az ← Req.float r "azimuth"
  let c ← Req.float r "center"
  pure (gazeJson (Gaze.at az c))

def angleToPixelOp (r : Json) : Handled Json := do
  let a ← Req.float r "angle"
  pure (answer [("pixel", .int (angleToPixel a))])

def inViewOp (r : Json) : Handled Json := do
  let b ← Req.float r "bearing"
  pure (answer [("in_view", .bool (inView b))])

def serialLineOp (r : Json) : Handled Json := do
  let line ← Req.str r "line"
  let (id, ok) := parseCode line
  pure (answer [("id", .str id), ("ok", .bool ok)])

def serialReadOp (r : Json) : Handled Json := do
  let data ← Req.str r "data"
  let (ids, stop) := readLines (Utf8.encode data) false
  pure (answer ([("emitted", Json.strs ids)] ++ Json.optField "error" (stop.map faultJson)))

def windowJson (w : AzimuthWindow) : Json :=
  .obj [("len", .nat w.size), ("average", floatJson w.average)]

def azimuthFilterOp (r : Json) : Handled Json := do
  let size ← Req.int r "size"
  let samples ← Req.floats r "samples"
  let w0 := AzimuthWindow.empty size
  let ws := samples.scanl RingWindow.add w0
  pure (answer [("after", .arr (ws.map windowJson))])

def Req.hex (r : Json) (key : String) : Handled (List UInt8) := do
  let s ← Req.str r key
  match Utf8.ofHex? s with
  | some bs => pure bs
  | none => .error (fieldError key "hex text")

def orientationFrame (o : Orientation) : Except Fault (List UInt8) :=
  o.body >>= Frame.encode Frame.defaultLimit

def orientationOf (j : Json) : Handled Orientation := do
  let azimuth ← Req.float j "azimuth"
  let pitch ← Req.float j "pitch"
  let roll ← Req.float j "roll"
  pure { azimuth, pitch, roll }

/-- The orientation stream of a request: framed `messages`, or raw `hex`, then `tail_hex`. -/
def Req.orientationStream (r : Json) : Handled (List UInt8) := do
  let head ← if r.has "messages" then do
      let ms ← Req.list r "messages"
      let os ← ms.mapM orientationOf
      match os.mapM orientationFrame with
      | .ok frames => pure frames.flatten
      | .error e => .error (faultJson e)
    else Req.hex r "hex"
  let tail ← Req.hex r "tail_hex"
  pure (head ++ tail)

def readJson (after : OrientationReader) (emitted : List (SpeakerId × Gaze)) : List (String × Json) :=
  [("emitted", .arr (emitted.map fun (id, g) => .obj [("id", .str id), ("gaze", gazeJson g)])),
    ("seen", .bool after.gaze.isSome), ("gaze", gazeJson (after.gaze.getD {}))]

def orientationReadOp (r : Json) : Handled Json := do
  let specs ← Req.sectors r "sectors"
  let window ← Req.int r "window"
  let center ← Req.float r "center"
  let stream ← Req.orientationStream r
  match Sector.parse specs with
  | .error e => pure (faultJson e)
  | .ok sectors =>
    let reader : OrientationReader := { window := AzimuthWindow.empty window, center, sectors }
    let (after, emitted, stop) := reader.readStream stream
    pure (answer (readJson after emitted ++ [("filter_len", .nat after.window.size)] ++
      Json.optField "error" (stop.map faultJson)))

/-- Runs the orientation source as a server that a device connects to, unless
the run is cancelled first. -/
def orientationRunOp (r : Json) : Handled Json := do
  let addr ← Req.strD r "addr" ""
  let specs ← Req.sectors r "sectors"
  let window ← Req.int r "window"
  let center ← Req.float r "center"
  let stream ← Req.orientationStream r
  let cancelled ← Req.bool r "cancelled"
  let cancelWaiting ← Req.bool r "cancel_waiting"
  match Sector.parse specs with
  | .error e => pure (faultJson e)
  | .ok sectors =>
    let reader : OrientationReader := { window := AzimuthWindow.empty window, center, sectors }
    let arrival : OrientationReader.Arrival :=
      if cancelled then .cancelledBefore else if cancelWaiting then .cancelledWaiting else .device stream
    let (after, emitted, logs, stop) := reader.run (if addr.isEmpty then "127.0.0.1:0" else addr) arrival
    pure (answer (readJson after emitted ++
      [("logs", .arr (logs.map fun l => .str (l.level.name ++ " " ++ l.msg)))] ++ Json.optField "error" (stop.map faultJson)))

def trackerJson (t : Tracker) : List (String × Json) :=
  [("current", .str t.current), ("seen", .bool t.seen)]

def trackerOp (r : Json) : Handled Json := do
  let sets ← Req.strs r "sets"
  let step (acc : Signalled × List Json) (id : String) : Signalled × List Json :=
    let (s, changed) := acc.1.set id
    (s, acc.2 ++ [.obj ([("changed", .bool changed), ("channel_closed", .bool (s.closed.contains acc.1.changed)),
      ("listeners", Json.strs (if changed then [id] else []))] ++ trackerJson s.tracker)])
  let (_, steps) := sets.foldl step ({}, [])
  pure (answer [("initial", .obj (trackerJson {})), ("steps", .arr steps)])

def focusNewOp (r : Json) : Handled Json := do
  let cfg ← Req.obj r "config"
  let source ← Req.str cfg "source"
  let orientation ← Req.obj cfg "orientation"
  let specs ← Req.sectors orientation "sectors"
  let window ← Req.int orientation "window"
  match source with
  | "serial" => pure (answer [("type", .str "*focus.SerialSource")])
  | "orientation" =>
    pure (match Sector.parse specs with
      | .error e => faultJson e
      | .ok _ => answer [("type", .str "*focus.OrientationSource"),
          ("filter_len", .nat (AzimuthWindow.empty window).size)])
  | "mock" | "" => pure (answer [("type", .str "*focus.MockSource")])
  | other => pure (faultJson (.plain ("unknown focus source: " ++ other)))

def mockNextOp (r : Json) : Handled Json := do
  let least ← Req.int r "min_ns"
  let greatest ← Req.int r "max_ns"
  let seed ← Req.int r "seed"
  let n ← Req.int r "n"
  if seed = 0 then throw (badInput "seed must be non-zero")
  if n < 0 ∨ n > 1000 then throw (badInput "n must be in 0..1000")
  let draws := (MockSource.create least greatest seed).draws n.toNat
  pure (answer [("waits_ns", .arr (draws.map fun d => .int d.1)),
    ("ids", .arr (draws.map fun d => .str d.2))])

def mockRunOp (r : Json) : Handled Json := do
  let least ← Req.int r "min_ns"
  let greatest ← Req.int r "max_ns"
  let seed ← Req.int r "seed"
  let n ← Req.int r "n"
  if seed = 0 then throw (badInput "seed must be non-zero")
  if least ≤ 0 then throw (badInput "min_ns must be positive (0 means the 500ms default)")
  if n < 0 ∨ n > 20 ∨ least > 5000000 ∨ greatest > 5000000 then
    throw (badInput "n must be in 0..20 and waits at most 5ms")
  let changes := (MockSource.create least greatest seed).changes n.toNat (1000 * (n.toNat + 1))
  pure (answer [("changes", .arr (changes.map Json.str))])

end Service
end JuryCaptions
