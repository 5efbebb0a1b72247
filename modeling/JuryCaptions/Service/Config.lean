import JuryCaptions.Service.Request
import JuryCaptions.Config.Settings
/-!
The configuration operation: loads settings from environment variables and an
optional file, and reports every group of settings and any keys asked for.
-/

namespace JuryCaptions
namespace Service

open Config

def wordsJson : Option (List String) → Json
  | some ws => .arr (ws.map Json.str)
  | none => .null

def settingsJson (src : Source) : List (String × Json) :=
  let server := src.server
  let viewer := src.viewer
  let playback := src.playback
  let storage := src.storage
  let upload := src.upload
  let graylog := src.graylog
  let otel := src.otel
  let focus : Json := match src.focus with
    | .error e => faultJson (.plain e)
    | .ok f => .obj [
        ("source", .str f.source),
        ("serial", .obj [("port", .str f.serial.port), ("baud_rate", .int f.serial.baudRate)]),
        ("mock", .obj [("min_ns", .int f.mock.minInterval), ("max_ns", .int f.mock.maxInterval),
          ("seed", .int f.mock.seed)]),
        ("orientation", .obj [
          ("addr", .str f.orientation.addr),
          ("window", .int f.orientation.window),
          ("center_azimuth", floatJson f.orientation.centerAzimuth),
          ("sectors", match f.orientation.sectors with
            | some ss => .arr (ss.map fun s =>
                .obj [("juror", .str s.juror), ("from", floatJson s.start), ("to", floatJson s.stop)])
            | none => .null)])]
  [("log_level", .str (src.string "logLevel")),
    ("logs_dir", .str (src.string "logsDir")),
    ("server", .obj [
      ("host", .str server.host), ("port", .int server.port), ("addr", .str server.addr),
      ("rendering_method", .int server.renderingMethod), ("captions_file", .str server.captionsFile),
      ("qr_file", .str server.qrFile), ("status_file", .str server.statusFile),
      ("max_frame_size", .int server.maxFrameSize), ("wait_for_operator", .bool server.waitForOperator)]),
    ("viewer", .obj [
      ("addr", .str viewer.addr), ("fps", .int viewer.fps),
      ("indicator_offset", .str viewer.indicatorOffset), ("target_field", .str viewer.targetField),
      ("colors", .str viewer.colors), ("anchor_height", floatJson viewer.anchorHeight),
      ("rotate_step", floatJson viewer.rotateStep),
      ("keys", .obj ((Json.lastOfEach (viewer.keys.map fun (k, v) => (k, Json.str v))).mergeSort
        fun a b => decide (a.1 ≤ b.1))),
      ("speakers", wordsJson viewer.speakers), ("send_queue_size", .int viewer.sendQueueSize)]),
    ("playback", .obj [
      ("enabled", .bool playback.enabled), ("mode", .str playback.mode),
      ("player", .str playback.player), ("args", wordsJson playback.args),
      ("loop_args", wordsJson playback.loopArgs), ("videos_dir", .str playback.videosDir),
      ("section", .int playback.sectionNumber)]),
    ("storage", .obj [
      ("type", .str storage.type),
      ("memory", .obj [("output_dir", .str storage.memory.outputDir),
        ("compress_output", .bool storage.memory.compressOutput)]),
      ("sqlite", .obj [("dump_interval_ns", .int storage.sqlite.dumpInterval),
        ("dump_path", .str storage.sqlite.dumpPath)]),
      ("postgres", .obj [("dsn", .str storage.postgres.dsn)]),
      ("websocket", .obj [("url", .str storage.websocket.url), ("secret", .str storage.websocket.secret)]),
      ("influx", .obj [("url", .str storage.influx.url), ("token", .str storage.influx.token),
        ("org", .str storage.influx.org), ("bucket", .str storage.influx.bucket),
        ("backup_path", .str storage.influx.backupPath)])]),
    ("upload", .obj [("enabled", .bool upload.enabled), ("url", .str upload.url),
      ("secret", .str upload.secret)]),
    ("graylog", .obj [("enabled", .bool graylog.enabled), ("address", .str graylog.address)]),
    ("otel", .obj [("enabled", .bool otel.enabled), ("service_name", .str otel.serviceName),
      ("batch_timeout_ns", .int otel.batchTimeout), ("endpoint", .str otel.endpoint),
      ("insecure", .bool otel.insecure)]),
    ("focus", focus)]

/-- Loads settings and reports them, with the typed readings of any keys asked for. -/
def configOp (r : Json) : Handled Json := do
  let envObj ← Req.obj r "env"
  let env ← Req.table envObj "env"
  let ints ← Req.strs r "get_int"
  let bools ← Req.strs r "get_bool"
  let strings ← Req.strs r "get_string"
  let loaded ← if r.has "file" then do
      let text ← Req.str r "file"
      pure (load env "<dir>" (some text))
    else do
      let missing ← Req.bool r "missing_file"
      pure (if missing then load env "<dir>" none else .ok { env := env })
  match loaded with
  | .error e => pure (faultJson (.plain e))
  | .ok src =>
    pure (answer (settingsJson src ++
      ints.map (fun k => ("int:" ++ k, Json.int (src.int k))) ++
      bools.map (fun k => ("bool:" ++ k, Json.bool (src.bool k))) ++
      strings.map (fun k => ("string:" ++ k, Json.str (src.string k)))))

end Service
end JuryCaptions
