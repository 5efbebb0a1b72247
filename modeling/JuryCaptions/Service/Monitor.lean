import JuryCaptions.Service.Video
import JuryCaptions.Service.Host
import JuryCaptions.Monitor.Status
import JuryCaptions.Focus.Serial
/-!
Sources run on the scratch directory: the status monitor, run once, which
starts, perhaps meets a second run, and is stopped at once, so it takes one
snapshot; and the serial focus source on a path that is no serial device.
-/

namespace JuryCaptions
namespace Service

def gazeOf (j : Json) : Handled Focus.Gaze := do
  let azimuth ← Req.float j "azimuth"
  let relative ← Req.float j "relative"
  let pixel ← Req.int j "pixel"
  let inView ← Req.bool j "in_view"
  pure { azimuth, relative, pixel, inView }

def statusOf (j : Json) : Handled Monitor.Status := do
  let time ← Req.time j "time"
  let session ← Req.str j "session"
  let method ← Req.str j "method"
  let elapsed ← Req.str j "elapsed"
  let captionsSent ← Req.int j "captions_sent"
  let caption ← Req.str j "caption"
  let speaker ← Req.str j "speaker"
  let focused ← Req.str j "focused"
  let gaze ← if j.has "gaze" then do
      let g ← Req.obj j "gaze"
      let g ← gazeOf g
      pure (some g)
    else pure none
  pure { time, session, method, elapsed, captionsSent, caption, speaker, focused, gaze }

/-- Runs the status monitor with a stopped context, perhaps with a second run
while it runs. -/
def monitorRunOp (r : Json) : Handled Json := do
  let st ← Req.obj r "status"
  let status ← statusOf st
  let badPath ← Req.bool r "bad_path"
  let second ← Req.bool r "second_run"
  let path := scratchRoot ++ (if badPath then "/missing/status.json" else "/status.json")
  let m : Monitor.Service := { path := path }
  let fileJson (files : Files) : Json := match files.read path with
    | .ok t => .str t
    | .error _ => .null
  pure (showScratch (match m.start scratchFiles with
    | .error e =>
      answer [("error", faultJson (.plain e)), ("file", fileJson scratchFiles), ("last_session", .str m.last.session),
        ("running_after", .bool m.running), ("snapshots", .nat m.snapshots)]
    | .ok (m, files) =>
      let again := if second then (match m.start files with
          | .error e => [("second_error", faultJson (.plain e))]
          | .ok _ => [])
        else []
      let (m, files, _) := m.stop files status
      answer ([("file", fileJson files), ("last_session", .str m.last.session), ("running_after", .bool m.running)] ++
        (if second then again else [("snapshots", .nat m.snapshots)]))))

def serialOpenOp (r : Json) : Handled Json := do
  let port ← Req.str r "port"
  let createFile ← Req.bool r "create_file"
  let _ ← Req.intD r "baud_rate" 9600
  let files := if createFile then scratchFiles.create (scratchRoot ++ "/tty") "" false else scratchFiles
  pure (showScratch (answer [("emitted", .arr []),
    ("error", faultJson (Focus.portFailure files scratchRoot (enterScratch port)))]))

end Service
end JuryCaptions
