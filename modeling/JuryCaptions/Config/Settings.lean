import JuryCaptions.Config.Source
import JuryCaptions.Config.Sectors
/-!
The program's settings: their defaults and their typed groups. Every setting
has a default; only the focus sectors can fail to be read.
-/

namespace JuryCaptions
namespace Config

def defaults : Setting :=
  .table [
    ("loglevel", .text "info"),
    ("logsdir", .text "./logs"),
    ("server", .table [
      ("host", .text ""),
      ("port", .whole 65432),
      ("renderingmethod", .whole 2),
      ("captionsfile", .text "captions/captions.json"),
      ("qrfile", .text ""),
      ("statusfile", .text "status.json"),
      ("maxframesize", .whole 1048576),
      ("waitforoperator", .flag true)]),
    ("viewer", .table [
      ("addr", .text ":8080"),
      ("fps", .whole 60),
      ("indicatoroffset", .text "quarterTurn"),
      ("targetfield", .text "activeTarget"),
      ("colors", .text "gold"),
      ("anchorheight", .real 0.7),
      ("rotatestep", .real 5.0),
      ("keys", .labels [("1", "juror-a"), ("2", "juror-b"), ("3", "juror-c"), ("4", "jury-foreman")]),
      ("speakers", .words ["juror-a", "juror-b", "juror-c", "jury-foreman"]),
      ("sendqueuesize", .whole 256)]),
    ("focus", .table [
      ("source", .text "mock"),
      ("serial", .table [("port", .text "/dev/ttyACM0"), ("baudrate", .whole 9600)]),
      ("mock", .table [("mininterval", .text "500ms"), ("maxinterval", .text "4500ms"),
        ("seed", .whole 0)]),
      ("orientation", .table [
        ("addr", .text ":65433"),
        ("window", .whole 3000),
        ("centerazimuth", .real 180.0),
        ("sectors", .items [
          .table [("juror", .text "juror-a"), ("from", .real (-60.0)), ("to", .real (-30.0))],
          .table [("juror", .text "juror-b"), ("from", .real (-30.0)), ("to", .real 0.0)],
          .table [("juror", .text "juror-c"), ("from", .real 0.0), ("to", .real 30.0)],
          .table [("juror", .text "jury-foreman"), ("from", .real 30.0), ("to", .real 60.0)]])])]),
    ("playback", .table [
      ("enabled", .flag false),
      ("player", .text "mpv"),
      ("args", .words ["--no-terminal", "--fullscreen"]),
      ("videosdir", .text "./videos"),
      ("mode", .text "jurors"),
      ("loopargs", .words ["--loop-file=inf"]),
      ("section", .whole 0)]),
    ("storage", .table [
      ("type", .text "memory"),
      ("memory", .table [("outputdir", .text "./recordings"), ("compressoutput", .flag true)]),
      ("sqlite", .table [("dumpinterval", .text "3m"),
        ("dumppath", .text "./recordings/captioner.db")]),
      ("websocket", .table [("url", .text "ws://localhost:5000/api"), ("secret", .text "")])]),
    ("db", .table [
      ("host", .text "localhost"),
      ("port", .text "5432"),
      ("username", .text "postgres"),
      ("password", .text "postgres"),
      ("database", .text "captioner"),
      ("sslmode", .text "disable")]),
    ("influx", .table [
      ("host", .text "localhost"),
      ("port", .text "8086"),
      ("protocol", .text "http"),
      ("token", .text "supersecrettoken"),
      ("org", .text "captioner"),
      ("bucket", .text "sessions"),
      ("backuppath", .text "./recordings/influx_backup.lp.gz")]),
    ("upload", .table [
      ("enabled", .flag false),
      ("url", .text "http://localhost:5000"),
      ("secret", .text "")]),
    ("graylog", .table [
      ("enabled", .flag false),
      ("address", .text "localhost:12201")]),
    ("otel", .table [
      ("enabled", .flag false),
      ("servicename", .text "captioner"),
      ("batchtimeout", .text "5s"),
      ("endpoint", .text ""),
      ("insecure", .flag true)])]

namespace Source

def get (src : Source) (key : String) : Setting := src.find defaults key

def string (src : Source) (key : String) : String := (src.get key).asText

def int (src : Source) (key : String) : Int := (src.get key).asInt

def bool (src : Source) (key : String) : Bool := (src.get key).asBool

def float (src : Source) (key : String) : Float := (src.get key).asFloat

def duration (src : Source) (key : String) : Duration := (src.get key).asDuration

def strings (src : Source) (key : String) : Option (List String) := (src.get key).asWords

def labels (src : Source) (key : String) : List (String × String) := (src.get key).asLabels

end Source

structure ServerSettings where
  host : String
  port : Int
  renderingMethod : Int
  captionsFile : String
  qrFile : String
  statusFile : String
  maxFrameSize : Int
  waitForOperator : Bool
  deriving Repr, Inhabited

/-- The address the server listens on, `host:port`. -/
def ServerSettings.addr (s : ServerSettings) : String := s.host ++ ":" ++ toString s.port

structure ViewerSettings where
  addr : String
  fps : Int
  indicatorOffset : String
  targetField : String
  colors : String
  anchorHeight : Float
  rotateStep : Float
  keys : List (String × String)
  speakers : Option (List String)
  sendQueueSize : Int
  deriving Repr, Inhabited

structure SerialSettings where
  port : String
  baudRate : Int
  deriving Repr, Inhabited

structure MockSettings where
  minInterval : Duration
  maxInterval : Duration
  seed : Int
  deriving Repr, Inhabited

structure OrientationSettings where
  addr : String
  window : Int
  centerAzimuth : Float
  sectors : Option (List Focus.SectorSpec)
  deriving Repr, Inhabited

/-- The focus source and the settings of each kind of source. -/
structure FocusSettings where
  source : String
  serial : SerialSettings
  mock : MockSettings
  orientation : OrientationSettings
  deriving Repr, Inhabited

structure PlaybackSettings where
  enabled : Bool
  mode : String
  player : String
  args : Option (List String)
  loopArgs : Option (List String)
  videosDir : String
  sectionNumber : Int
  deriving Repr, Inhabited

/-- Settings of the recording backend kept in memory and written as files. -/
structure MemorySettings where
  outputDir : String
  compressOutput : Bool
  deriving Repr, Inhabited

/-- Settings of the recording backend kept in a database file. -/
structure SQLiteSettings where
  dumpInterval : Duration
  dumpPath : String
  deriving Repr, Inhabited

structure PostgresSettings where
  host : String
  port : String
  username : String
  password : String
  database : String
  sslMode : String
  deriving Repr, Inhabited

def PostgresSettings.dsn (p : PostgresSettings) : String :=
  "host=" ++ p.host ++ " port=" ++ p.port ++ " user=" ++ p.username ++ " password=" ++ p.password ++
    " dbname=" ++ p.database ++ " sslmode=" ++ p.sslMode

structure WebSocketSettings where
  url : String
  secret : String
  deriving Repr, Inhabited

structure InfluxSettings where
  host : String
  port : String
  protocol : String
  token : String
  org : String
  bucket : String
  backupPath : String
  deriving Repr, Inhabited

/-- The address of the time-series database, `protocol://host:port`. -/
def InfluxSettings.url (s : InfluxSettings) : String := s.protocol ++ "://" ++ s.host ++ ":" ++ s.port

/-- The recording backend and the settings of each kind of backend. -/
structure StorageSettings where
  type : String
  memory : MemorySettings
  sqlite : SQLiteSettings
  postgres : PostgresSettings
  websocket : WebSocketSettings
  influx : InfluxSettings
  deriving Repr, Inhabited

structure UploadSettings where
  enabled : Bool
  url : String
  secret : String
  deriving Repr, Inhabited

structure GraylogSettings where
  enabled : Bool
  address : String
  deriving Repr, Inhabited

structure OTelSettings where
  enabled : Bool
  serviceName : String
  batchTimeout : Duration
  endpoint : String
  insecure : Bool
  deriving Repr, Inhabited

namespace Source

def server (src : Source) : ServerSettings where
  host := src.string "server.host"
  port := src.int "server.port"
  renderingMethod := src.int "server.renderingMethod"
  captionsFile := src.string "server.captionsFile"
  qrFile := src.string "server.qrFile"
  statusFile := src.string "server.statusFile"
  maxFrameSize := src.int "server.maxFrameSize"
  waitForOperator := src.bool "server.waitForOperator"

def viewer (src : Source) : ViewerSettings where
  addr := src.string "viewer.addr"
  fps := src.int "viewer.fps"
  indicatorOffset := src.string "viewer.indicatorOffset"
  targetField := src.string "viewer.targetField"
  colors := src.string "viewer.colors"
  anchorHeight := src.float "viewer.anchorHeight"
  rotateStep := src.float "viewer.rotateStep"
  keys := src.labels "viewer.keys"
  speakers := src.strings "viewer.speakers"
  sendQueueSize := src.int "viewer.sendQueueSize"

def focus (src : Source) : Except String FocusSettings :=
  match sectorsOf (src.get "focus.orientation.sectors") with
  | .error errs => .error ("decoding focus.orientation.sectors: " ++ sectorsFailure errs)
  | .ok sectors => .ok {
      source := src.string "focus.source"
      serial := { port := src.string "focus.serial.port", baudRate := src.int "focus.serial.baudRate" }
      mock := {
        minInterval := src.duration "focus.mock.minInterval"
        maxInterval := src.duration "focus.mock.maxInterval"
        seed := src.int "focus.mock.seed" }
      orientation := {
        addr := src.string "focus.orientation.addr"
        window := src.int "focus.orientation.window"
        centerAzimuth := src.float "focus.orientation.centerAzimuth"
        sectors := sectors } }

def playback (src : Source) : PlaybackSettings where
  enabled := src.bool "playback.enabled"
  mode := src.string "playback.mode"
  player := src.string "playback.player"
  args := src.strings "playback.args"
  loopArgs := src.strings "playback.loopArgs"
  videosDir := src.string "playback.videosDir"
  sectionNumber := src.int "playback.section"

def storage (src : Source) : StorageSettings where
  type := src.string "storage.type"
  memory := {
    outputDir := src.string "storage.memory.outputDir"
    compressOutput := src.bool "storage.memory.compressOutput" }
  sqlite := {
    dumpInterval := src.duration "storage.sqlite.dumpInterval"
    dumpPath := src.string "storage.sqlite.dumpPath" }
  postgres := {
    host := src.string "db.host"
    port := src.string "db.port"
    username := src.string "db.username"
    password := src.string "db.password"
    database := src.string "db.database"
    sslMode := src.string "db.sslmode" }
  websocket := {
    url := src.string "storage.websocket.url"
    secret := src.string "storage.websocket.secret" }
  influx := {
    host := src.string "influx.host"
    port := src.string "influx.port"
    protocol := src.string "influx.protocol"
    token := src.string "influx.token"
    org := src.string "influx.org"
    bucket := src.string "influx.bucket"
    backupPath := src.string "influx.backupPath" }

def upload (src : Source) : UploadSettings where
  enabled := src.bool "upload.enabled"
  url := src.string "upload.url"
  secret := src.string "upload.secret"

def graylog (src : Source) : GraylogSettings where
  enabled := src.bool "graylog.enabled"
  address := src.string "graylog.address"

def otel (src : Source) : OTelSettings where
  enabled := src.bool "otel.enabled"
  serviceName := src.string "otel.serviceName"
  batchTimeout := src.duration "otel.batchTimeout"
  endpoint := src.string "otel.endpoint"
  insecure := src.bool "otel.insecure"

end Source

def fileName : String := "captioner.cfg.json"

/-- Reads the text of a configuration file; a file holding `null` sets nothing. -/
def readFile (text : String) : Except String Setting :=
  match Json.decodeText text (.dictionary "map[string]interface \x7b\x7d") with
  | .ok (.doc d) => .ok (Setting.ofJson d)
  | .ok _ => .ok .unset
  | .error e => .error ("While parsing config: " ++ e.message)

/-- Loads the configuration from a directory's file, given the file's text if
there is one; the failure names the directory. -/
def load (env : List (String × String)) (dir : String) (text : Option String) : Except String Source :=
  match text with
  | none => .error ("error reading config file: Config File " ++ Quote.quoted fileName ++
      " Not Found in " ++ Quote.quoted ("[" ++ dir ++ "]"))
  | some t =>
    match readFile t with
    | .ok file => .ok { env := env, file := file }
    | .error e => .error ("error reading config file: " ++ e)

end Config
end JuryCaptions
