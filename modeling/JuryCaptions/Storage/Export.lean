import JuryCaptions.Storage.Rows
import JuryCaptions.Text.Utf8
/-!
The export of a recorded session as one JSON document (format version 1), with
times in milliseconds rounded to three decimals, halves away from zero.
Writing fails on a start or end with no RFC 3339 text and on a position
coordinate that is not finite.
-/

namespace JuryCaptions
namespace Storage

def exportVersion : Nat := 1

/-- What a session recorded, in the order recorded. -/
structure Recording where
  session : Session
  captions : List CaptionRecord := []
  focus : List FocusRecord := []
  targets : List TargetRecord := []
  positions : List PositionRecord := []
  deriving Inhabited

def round3 (x : Float) : Float := (x * 1000.0).round / 1000.0

def roundedMillis (d : Duration) : Float := round3 (millisOf d)

def offsetOf (start t : Instant) : Float :=
  if start.isZero then 0.0 else roundedMillis (t.since start)

/-- Seconds of a duration as a double: whole seconds plus the fraction. -/
def secondsOf (d : Duration) : Float :=
  Float.ofInt (d.tdiv 1000000000) + Float.ofInt (d.tmod 1000000000) / 1e9

def jurorJson (id : SpeakerId) : Json := if id.isEmpty then .null else .str id

def positionsBySpeaker (ps : List PositionRecord) : List (SpeakerId × List PositionRecord) :=
  let speakers := (ps.map (·.speaker)).eraseDups.mergeSort fun a b => decide (a ≤ b)
  speakers.map fun s => (s, ps.filter (·.speaker == s))

def firstNonFinite (rec : Recording) : Option Float :=
  ((positionsBySpeaker rec.positions).flatMap fun (_, ps) =>
    ps.flatMap fun p => [p.position.x, p.position.y, p.position.z]).find? (!isFinite ·)

def captionEntry (start : Instant) (c : CaptionRecord) : Json :=
  .obj [("offset", .float (offsetOf start c.time)), ("sendDelay", .float (roundedMillis c.sendDelay)),
    ("message", c.message.toJson)]

def focusEntry (start : Instant) (f : FocusRecord) : Json :=
  .arr [.float (offsetOf start f.time), jurorJson f.focused, .str f.source]

def targetEntry (start : Instant) (t : TargetRecord) : Json :=
  .arr [.float (offsetOf start t.time), jurorJson t.target, .str t.input]

def positionEntry (start : Instant) (p : PositionRecord) : Json :=
  .arr [.float (offsetOf start p.time), .arr [.float p.position.x, .float p.position.y, .float p.position.z]]

/-- The length of a session in seconds, set only when it ended after its start. -/
def exportDuration (s : Session) : Float :=
  if !s.endTime.isZero && s.endTime.unixNanos > s.startTime.unixNanos then
    round3 (secondsOf (s.endTime.since s.startTime)) else 0.0

/-- The export document of a recording; its coordinates must be finite. -/
def exportJson (rec : Recording) : Json :=
  let s := rec.session
  let start := s.startTime
  .obj ([("version", .nat exportVersion), ("sessionId", .str s.uuid),
    ("renderingMethod", .int s.method.code), ("renderingMethodName", .str s.method.name),
    ("captionsFile", .str s.captionsFile), ("focusSource", .str s.focusSource)] ++
    (if s.clientAddr.isEmpty then [] else [("clientAddr", .str s.clientAddr)]) ++
    [("startTime", .str start.format), ("endTime", .str s.endTime.format),
    ("duration", .float (exportDuration s)),
    ("captions", .arr (rec.captions.map (captionEntry start))),
    ("focus", .arr (rec.focus.map (focusEntry start))),
    ("targets", .arr (rec.targets.map (targetEntry start))),
    ("positions", .obj ((positionsBySpeaker rec.positions).map fun (sp, ps) =>
      (sp, .arr (ps.map (positionEntry start)))))])

/-- Why an instant has no RFC 3339 text in a document: a year not written with
four digits, or a zone a day or more away from UTC. -/
def timeTextError (t : Instant) : Option String :=
  if t.format.toList[4]? != some '-' then some "year outside of range [0,9999]"
  else if 86400 ≤ t.offset.natAbs then some "timezone hour outside of range [0,23]"
  else none

/-- The export as written to its file, with a final line end, or the reason it
cannot be written: the start and end come before the positions. -/
def exportText (rec : Recording) : Except String String :=
  match [rec.session.startTime, rec.session.endTime].findSome? timeTextError with
  | some e => .error ("json: error calling MarshalJSON for type time.Time: Time.MarshalJSON: " ++ e)
  | none =>
    match firstNonFinite rec with
    | some x => .error ("json: unsupported value: " ++ FloatText.general x)
    | none => .ok (Json.compact (exportJson rec) ++ "\n")

/-- The start of a session as `YYYYMMDD_hhmmss` in its own offset. -/
def stampOf (t : Instant) : String :=
  let text := t.format
  -- the text starts `YYYY-MM-DDThh:mm:ss` for years from 0 to 9999
  let cs := text.toList
  let pick (i n : Nat) : String := String.ofList ((cs.drop i).take n)
  pick 0 4 ++ pick 5 2 ++ pick 8 2 ++ "_" ++ pick 11 2 ++ pick 14 2 ++ pick 17 2

/-- The file name of an export: `session_<method>_<start>_<id>.json`, with the
first eight bytes of the session's unique id, and `.gz` when compressed. -/
def exportFileName (s : Session) (compressed : Bool) : String :=
  let bytes := Utf8.encode s.uuid
  let id := if bytes.length > 8 then Utf8.decode (bytes.take 8) else s.uuid
  "session_" ++ s.method.name ++ "_" ++ stampOf s.startTime ++ "_" ++ id ++ ".json" ++
    (if compressed then ".gz" else "")

structure ExportSummary where
  sessionId : String := ""
  methodName : String := ""
  duration : Float := 0.0
  captions : Nat := 0
  deriving Repr, Inhabited

/-- The summary of a recording: the duration is the end less the start, in
seconds, once the session has ended. -/
def Recording.summary (rec : Recording) : ExportSummary :=
  let s := rec.session
  { sessionId := s.uuid, methodName := s.method.name, captions := rec.captions.length,
    duration := if s.endTime.isZero then 0.0 else secondsOf (s.endTime.since s.startTime) }

end Storage
end JuryCaptions
