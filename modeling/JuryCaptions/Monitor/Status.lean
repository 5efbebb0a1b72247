import JuryCaptions.Focus.Gaze
import JuryCaptions.Jury.Juror
import JuryCaptions.Time.Instant
import JuryCaptions.Json.Write
import JuryCaptions.Number.Format
import JuryCaptions.System.Files
import JuryCaptions.Log
/-!
The status monitor: a file holding a session's latest status as indented JSON.
A status with a gaze that is not finite is not written; the failure is logged.
Running creates the file empty and writes a snapshot each tick and on stop.
-/

namespace JuryCaptions
namespace Monitor

open Focus

structure Status where
  time : Instant := Instant.zero
  session : String := ""
  method : String := ""
  elapsed : String := ""
  captionsSent : Int := 0
  caption : String := ""
  speaker : SpeakerId := ""
  focused : SpeakerId := ""
  gaze : Option Gaze := none
  deriving Inhabited

def finite (x : Float) : Bool := !(x.isNaN || x.isInf)

def gazeDocument (g : Gaze) : Json :=
  .obj [("azimuth", .float g.azimuth), ("relative", .float g.relative), ("pixel", .int g.pixel),
    ("inView", .bool g.inView)]

def unlessEmpty (key value : String) : List (String × Json) :=
  if value.isEmpty then [] else [(key, .str value)]

/-- The document of a status; its gaze must be finite. -/
def Status.toJson (s : Status) : Json :=
  .obj ([("time", .str s.time.format), ("session", .str s.session), ("renderingMethod", .str s.method),
    ("elapsed", .str s.elapsed), ("captionsSent", .int s.captionsSent)] ++
    unlessEmpty "caption" s.caption ++ unlessEmpty "speaker" s.speaker ++ unlessEmpty "focused" s.focused ++
    (match s.gaze with
      | some g => [("gaze", gazeDocument g)]
      | none => []))

def Status.text (s : Status) : Except String String :=
  match s.gaze with
  | some g =>
    match [g.azimuth, g.relative].find? (!finite ·) with
    | some x => .error ("json: unsupported value: " ++ FloatText.general x)
    | none => .ok (Json.indented "  " s.toJson ++ "\n")
  | none => .ok (Json.indented "  " s.toJson ++ "\n")

structure Service where
  path : String
  running : Bool := false
  last : Status := {}
  /-- How many snapshots were taken. -/
  snapshots : Nat := 0
  deriving Inhabited

namespace Service

/-- Starts running: creates the status file, empty. -/
def start (m : Service) (files : Files) : Except String (Service × Files) :=
  if m.running then .error "status monitor already running"
  else match files.write m.path "" false with
    | .ok fs => .ok ({ m with running := true }, fs)
    | .error e => .error ("creating status file: open " ++ m.path ++ ": " ++ e)

/-- Writes a snapshot to the status file; a status that cannot be written is
logged instead. -/
def write (m : Service) (files : Files) (s : Status) : Service × Files × List LogRecord :=
  let m := { m with snapshots := m.snapshots + 1 }
  match s.text with
  | .ok text =>
    match files.write m.path text false with
    | .ok fs => ({ m with last := s }, fs, [])
    | .error e => (m, files, [LogRecord.mk .error "Error writing status file" [("error", .str e)]])
  | .error e => (m, files, [LogRecord.mk .error "Error writing status file" [("error", .str e)]])

def stop (m : Service) (files : Files) (s : Status) : Service × Files × List LogRecord :=
  let (m, files, logs) := m.write files s
  ({ m with running := false }, files, logs)

end Service

end Monitor
end JuryCaptions
